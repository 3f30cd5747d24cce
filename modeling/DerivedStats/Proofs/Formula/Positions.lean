import DerivedStats.Proofs.Formula.Scanning

/-! The text between two cursors, and the tokens that it spells whatever follows it. -/

namespace DerivedStats.Formula

open Text (isBlank)

lemma byteSize_append (cs ds : List Char) : byteSize (cs ++ ds) = byteSize cs + byteSize ds := by
  induction cs with
  | nil => simp [byteSize]
  | cons c cs ih => simp [byteSize, ih, Nat.add_assoc]

namespace Cursor

structure Leads (front : List Char) (s t : Cursor) : Prop where
  rest : s.rest = front ++ t.rest
  position : t.position = s.position + byteSize front

namespace Leads

lemma refl (s : Cursor) : Leads [] s s := ⟨rfl, rfl⟩

lemma trans {front back : List Char} {r s t : Cursor} (h : Leads front r s) (h' : Leads back s t) :
    Leads (front ++ back) r t where
  rest := by rw [h.rest, h'.rest, List.append_assoc]
  position := by rw [h'.position, h.position, byteSize_append, Nat.add_assoc]

lemma drop (n : ℕ) (s : Cursor) : Leads (s.rest.take n) s (s.drop n) :=
  ⟨(List.take_append_drop n s.rest).symm, rfl⟩

lemma span (p : Char → Bool) (s : Cursor) : Leads (s.rest.takeWhile p) s (s.span p).2 := by
  have h := drop (s.rest.takeWhile p).length s
  rwa [← List.prefix_iff_eq_take.mp (List.takeWhile_prefix p)] at h

lemma skipBlanks (s : Cursor) : Leads (s.rest.takeWhile isBlank) s s.skipBlanks := span isBlank s

lemma grow {s t : Cursor} (h : s.grow = .ok t) : Leads [] s t := by
  rw [Cursor.grow] at h
  split at h
  · contradiction
  · obtain rfl := Except.ok.inj h
    exact ⟨rfl, rfl⟩

end Leads

end Cursor

namespace Grammar

def Spells (ts : List Token) (front rest : List Char) : Prop :=
  ∀ us cs, (Boundary rest → Boundary cs) → Spelled us cs → Spelled (ts ++ us) (front ++ cs)

lemma Reads.replace {t : Token} {front rest : List Char} (h : Reads t (front ++ rest) rest)
    {cs : List Char} (hcs : Boundary rest → Boundary cs) : Reads t (front ++ cs) cs := by
  generalize htext : front ++ rest = text at h
  cases h with
  | number hn =>
    obtain rfl := List.append_cancel_right htext
    exact .number hn
  | delimited hname =>
    obtain rfl : front = '%' :: _ ++ ['%'] := by
      have happend := htext.trans (List.append_cons _ '%' rest)
      exact List.append_cancel_right happend
    have hread : Reads _ _ cs := .delimited hname
    simpa using hread
  | name hc hname hb =>
    obtain rfl := List.append_cancel_right htext
    exact .name hc hname (hcs hb)
  | symbol hb =>
    obtain rfl := List.append_cancel_right htext
    exact .symbol fun hor => hcs (hb hor)
  | bars =>
    have happend : front ++ rest = ['|', '|'] ++ rest := htext
    obtain rfl := List.append_cancel_right happend
    exact .bars
  | opening =>
    have happend : front ++ rest = ['('] ++ rest := htext
    obtain rfl := List.append_cancel_right happend
    exact .opening
  | closing =>
    have happend : front ++ rest = [')'] ++ rest := htext
    obtain rfl := List.append_cancel_right happend
    exact .closing
  | comma =>
    have happend : front ++ rest = [','] ++ rest := htext
    obtain rfl := List.append_cancel_right happend
    exact .comma

lemma boundary_append {front rest cs : List Char} (h : Boundary rest → Boundary cs) :
    Boundary (front ++ rest) → Boundary (front ++ cs) := by
  cases front with
  | nil => exact h
  | cons c front => exact id

namespace Spells

lemma nil (rest : List Char) : Spells [] [] rest := fun _ _ _ hspelled => hspelled

lemma append {ts us : List Token} {front back rest : List Char} (h : Spells ts front (back ++ rest))
    (h' : Spells us back rest) : Spells (ts ++ us) (front ++ back) rest := by
  intro vs cs hcs hspelled
  rw [List.append_assoc, List.append_assoc]
  exact h _ _ (boundary_append hcs) (h' _ _ hcs hspelled)

lemma token {t : Token} {front rest : List Char} (h : Reads t (front ++ rest) rest) :
    Spells [t] front rest := by
  intro us cs hcs hspelled
  exact .cons (h.replace hcs) hspelled

lemma blanks {front : List Char} (h : ∀ c ∈ front, isBlank c) (rest : List Char) :
    Spells [] front rest := by
  intro us cs _ hspelled
  exact hspelled.blanks h

end Spells

end Grammar

end DerivedStats.Formula
