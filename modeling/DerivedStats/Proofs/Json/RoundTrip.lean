import DerivedStats.Proofs.Json.Phrases

/-! Written values are read back, up to reals that are no numbers. -/

namespace DerivedStats.Json

def isFinite (x : Float) : Bool := !(x.isNaN || x.isInf)

mutual

def Value.told : Value → Value
  | .real x => if isFinite x then .real x else .null
  | .unreadable => .null
  | .array items => .array (toldItems items)
  | .object members => .object (toldMembers members)
  | v => v

def toldItems : List Value → List Value
  | [] => []
  | v :: vs => v.told :: toldItems vs

def toldMembers : List (String × Value) → List (String × Value)
  | [] => []
  | (name, v) :: ms => (name, v.told) :: toldMembers ms

end

def Rereads (x : Float) : Prop := read (realText x) = some (.real x)

mutual

/-- Each number of the value survives JSON text. -/
def Value.Legible : Value → Prop
  | .integer n => Fits n
  | .real x => isFinite x = true → Rereads x
  | .array items => LegibleItems items
  | .object members => LegibleMembers members
  | _ => True

def LegibleItems : List Value → Prop
  | [] => True
  | v :: vs => v.Legible ∧ LegibleItems vs

def LegibleMembers : List (String × Value) → Prop
  | [] => True
  | (_, v) :: ms => v.Legible ∧ LegibleMembers ms

end

def EndsValue (rest : List Char) : Prop := ∀ c ∈ rest.head?, c = ',' ∨ c = '\n'

lemma EndsValue.endsNumeral {rest : List Char} (h : EndsValue rest) : EndsNumeral rest := by
  intro c hc
  obtain rfl | rfl := h c hc <;> decide

lemma toList_newLine (depth : Nat) :
    (newLine depth).toList = '\n' :: List.replicate (2 * depth) ' ' := by
  simp [newLine]

lemma skipSpaces_newLine (depth : Nat) (cs : List Char) :
    skipSpaces ((newLine depth).toList ++ cs) = skipSpaces cs := by
  refine skipSpaces_append (fun c hc => ?_) cs
  rw [toList_newLine] at hc
  obtain rfl | hc := List.mem_cons.mp hc
  · rfl
  · rw [List.eq_of_mem_replicate hc]
    rfl

def linesFrom (closing : Char) (depth : Nat) : List String → List Char
  | [] => []
  | [p] => p.toList ++ ((newLine depth).toList ++ [closing])
  | p :: q :: ps =>
    p.toList ++ (',' :: ((newLine (depth + 1)).toList ++ linesFrom closing depth (q :: ps)))

lemma toList_lines (closing : Char) (depth : Nat) (p : String) (ps : List String) :
    (String.intercalate "," ((p :: ps).map (newLine (depth + 1) ++ ·))).toList ++
        ((newLine depth).toList ++ [closing]) =
      (newLine (depth + 1)).toList ++ linesFrom closing depth (p :: ps) := by
  induction ps generalizing p with
  | nil => simp [linesFrom]
  | cons q ps ih =>
    rw [List.map_cons, List.map_cons, String.intercalate_cons_cons, ← List.map_cons]
    simp only [String.toList_append, List.append_assoc, ih q, linesFrom]
    rfl

lemma toList_block (opening closing : Char) (depth : Nat) {parts : List String} (h : parts ≠ []) :
    (block (String.singleton opening) (String.singleton closing) depth parts).toList =
      opening :: ((newLine (depth + 1)).toList ++ linesFrom closing depth parts) := by
  obtain ⟨p, ps, rfl⟩ := List.exists_cons_of_ne_nil h
  rw [← toList_lines]
  simp [block]

lemma toList_array (depth : Nat) (v : Value) (vs : List Value) :
    (Value.prettyAt depth (.array (v :: vs))).toList =
      '[' :: ((newLine (depth + 1)).toList ++
        linesFrom ']' depth (prettyItems (depth + 1) (v :: vs))) :=
  toList_block '[' ']' depth (List.cons_ne_nil _ _)

lemma toList_object (depth : Nat) (m : String × Value) (ms : List (String × Value)) :
    (Value.prettyAt depth (.object (m :: ms))).toList =
      '\x7b' :: ((newLine (depth + 1)).toList ++
        linesFrom '\x7d' depth (prettyMembers (depth + 1) (m :: ms))) :=
  toList_block '\x7b' '\x7d' depth (List.cons_ne_nil _ _)

lemma length_newLine (depth : Nat) : 1 ≤ (newLine depth).toList.length := by
  rw [toList_newLine, List.length_cons]
  omega

lemma endsValue_newLine (depth : Nat) (cs : List Char) :
    EndsValue ((newLine depth).toList ++ cs) := by
  rw [toList_newLine]
  exact fun c hc => .inr (Option.some.inj hc).symm

lemma endsValue_comma (cs : List Char) : EndsValue (',' :: cs) :=
  fun _ hc => .inl (Option.some.inj hc).symm

lemma readItems_newLine (fuel depth : Nat) (cs : List Char) :
    readItems fuel ((newLine depth).toList ++ cs) = readItems fuel cs := by
  rw [← readItems_skipSpaces, skipSpaces_newLine, readItems_skipSpaces]

lemma readMembers_newLine (fuel depth : Nat) (cs : List Char) :
    readMembers fuel ((newLine depth).toList ++ cs) = readMembers fuel cs := by
  rw [← readMembers_skipSpaces, skipSpaces_newLine, readMembers_skipSpaces]

lemma readValue_space (fuel : Nat) (cs : List Char) :
    readValue fuel (' ' :: cs) = readValue fuel cs := by
  rw [← readValue_skipSpaces, ← readValue_skipSpaces fuel cs]
  rfl

lemma readValue_integer {n : Int} (hn : Fits n) (fuel : Nat) {rest : List Char}
    (hrest : EndsValue rest) :
    readValue (fuel + 1) ((Value.integer n).compact.toList ++ rest) = some (.integer n, rest) := by
  rw [compact_integer, readValue_numeral fuel (wholeNumeral_wellFormed _ _) hrest.endsNumeral,
    wholeNumeral_value hn]

lemma toList_realText {x : Float} (hfinite : isFinite x = true) :
    ∃ n : Numeral, n.WellFormed ∧ (realText x).toList = n.text ∧
      (Rereads x → n.value = .real x) := by
  obtain ⟨n, hn, -, htext⟩ := write_eq_text x
  have hreal : (realText x).toList = n.text := by
    rw [isFinite, Bool.not_eq_true'] at hfinite
    rw [realText, hfinite, if_neg (by decide), String.toList_ofList, htext]
  refine ⟨n, hn, hreal, fun hread => ?_⟩
  have hend : EndsNumeral [] := by simp [EndsNumeral]
  have hvalue := readValue_numeral (2 * n.text.length + 1) hn hend
  rw [List.append_nil] at hvalue
  rw [Rereads, read, hreal, hvalue] at hread
  exact Option.some.inj hread

lemma readValue_real {x : Float} (hx : isFinite x = true → Rereads x) (fuel : Nat)
    {rest : List Char} (hrest : EndsValue rest) :
    readValue (fuel + 1) ((realText x).toList ++ rest) = some ((Value.real x).told, rest) := by
  rw [Value.told]
  by_cases hfinite : isFinite x = true
  · obtain ⟨n, hn, htext, hvalue⟩ := toList_realText hfinite
    rw [htext, readValue_numeral fuel hn hrest.endsNumeral, hvalue (hx hfinite), if_pos hfinite]
  · have hspecial : (x.isNaN || x.isInf) = true := by
      simpa only [isFinite, Bool.not_eq_true', Bool.not_eq_false] using hfinite
    have hlost : realText x = "null" := if_pos hspecial
    rw [hlost, if_neg hfinite]
    exact readValue_null fuel rest

def Reads (v w : Value) : Prop :=
  ∀ (depth : Nat) (rest : List Char) (fuel : Nat), EndsValue rest →
    (v.prettyAt depth).toList.length ≤ fuel →
    readValue (fuel + 1) ((v.prettyAt depth).toList ++ rest) = some (w, rest)

lemma readItems_lines {vs : List Value} (h : ∀ v ∈ vs, Reads v v.told) (hne : vs ≠ [])
    (depth : Nat) (rest : List Char) {fuel : Nat}
    (hfuel : (linesFrom ']' depth (prettyItems (depth + 1) vs)).length ≤ fuel) :
    readItems (fuel + 1) (linesFrom ']' depth (prettyItems (depth + 1) vs) ++ rest) =
      some (toldItems vs, rest) := by
  induction vs generalizing fuel with
  | nil => exact absurd rfl hne
  | cons v vs ih =>
    obtain ⟨hv, hvs⟩ := List.forall_mem_cons.mp h
    cases vs with
    | nil =>
      simp only [prettyItems, linesFrom, List.length_append, List.append_assoc] at hfuel ⊢
      have hlength := length_newLine depth
      obtain ⟨fuel, rfl⟩ := Nat.exists_eq_add_one_of_ne_zero (by omega : fuel ≠ 0)
      refine readItems_last (hv (depth + 1) _ fuel (endsValue_newLine _ _) (by omega)) ?_
      rw [skipSpaces_newLine]
      rfl
    | cons w vs =>
      simp only [prettyItems, linesFrom, List.length_append, List.length_cons, List.append_assoc,
        List.cons_append] at hfuel ⊢
      obtain ⟨fuel, rfl⟩ := Nat.exists_eq_add_one_of_ne_zero (by omega : fuel ≠ 0)
      refine readItems_more (hv (depth + 1) _ fuel (endsValue_comma _) (by omega))
        (skipSpaces_cons rfl _) ?_
      rw [readItems_newLine]
      exact ih hvs (List.cons_ne_nil w vs) (by simpa only [prettyItems] using by omega)

lemma readMembers_lines {ms : List (String × Value)} (h : ∀ m ∈ ms, Reads m.2 m.2.told)
    (hne : ms ≠ []) (depth : Nat) (rest : List Char) {fuel : Nat}
    (hfuel : (linesFrom '\x7d' depth (prettyMembers (depth + 1) ms)).length ≤ fuel) :
    readMembers (fuel + 1) (linesFrom '\x7d' depth (prettyMembers (depth + 1) ms) ++ rest) =
      some (some (toldMembers ms), rest) := by
  induction ms generalizing fuel with
  | nil => exact absurd rfl hne
  | cons m ms ih =>
    obtain ⟨hm, hms⟩ := List.forall_mem_cons.mp h
    obtain ⟨name, v⟩ := m
    change Reads v v.told at hm
    have hcolon : ": ".toList = [':', ' '] := by decide
    cases ms with
    | nil =>
      simp only [prettyMembers, linesFrom, String.toList_append, hcolon, List.length_append,
        List.append_assoc, List.cons_append, List.nil_append, List.length_cons] at hfuel ⊢
      have hlength := length_newLine depth
      obtain ⟨fuel, rfl⟩ := Nat.exists_eq_add_one_of_ne_zero (by omega : fuel ≠ 0)
      have hvalue := hm (depth + 1) _ fuel (endsValue_newLine depth ('\x7d' :: rest)) (by omega)
      refine readMembers_last name ((readValue_space _ _).trans hvalue) ?_
      rw [skipSpaces_newLine]
      rfl
    | cons n ms =>
      simp only [prettyMembers, linesFrom, String.toList_append, hcolon, List.length_append,
        List.append_assoc, List.cons_append, List.nil_append, List.length_cons] at hfuel ⊢
      obtain ⟨fuel, rfl⟩ := Nat.exists_eq_add_one_of_ne_zero (by omega : fuel ≠ 0)
      refine readMembers_more name
        ((readValue_space _ _).trans (hm (depth + 1) _ fuel (endsValue_comma _) (by omega)))
        (skipSpaces_cons rfl _) ?_
      rw [readMembers_newLine]
      exact ih hms (List.cons_ne_nil n ms) (by simpa only [prettyMembers] using by omega)

theorem Value.ofParts {P : Value → Prop} (hnull : P .null) (hlost : P .unreadable)
    (hboolean : ∀ b, P (.boolean b)) (hinteger : ∀ n, P (.integer n)) (hreal : ∀ x, P (.real x))
    (hstring : ∀ s, P (.string s)) (harray : ∀ items, (∀ v ∈ items, P v) → P (.array items))
    (hobject : ∀ members, (∀ m ∈ members, P m.2) → P (.object members)) : ∀ v, P v
  | .null => hnull
  | .unreadable => hlost
  | .boolean b => hboolean b
  | .integer n => hinteger n
  | .real x => hreal x
  | .string s => hstring s
  | .array items => harray items fun v _ =>
    ofParts hnull hlost hboolean hinteger hreal hstring harray hobject v
  | .object members => hobject members fun m hm =>
    have : sizeOf m.2 < sizeOf members := by
      have hmember := List.sizeOf_lt_of_mem hm
      have hpair : sizeOf m = 1 + sizeOf m.1 + sizeOf m.2 := rfl
      omega
    ofParts hnull hlost hboolean hinteger hreal hstring harray hobject m.2

lemma LegibleItems.mem {vs : List Value} (h : LegibleItems vs) : ∀ v ∈ vs, v.Legible := by
  induction vs with
  | nil => simp
  | cons v vs ih => exact List.forall_mem_cons.mpr ⟨h.1, ih h.2⟩

lemma LegibleMembers.mem {ms : List (String × Value)} (h : LegibleMembers ms) :
    ∀ m ∈ ms, m.2.Legible := by
  induction ms with
  | nil => simp
  | cons m ms ih => exact List.forall_mem_cons.mpr ⟨h.1, ih h.2⟩

lemma reads_told (v : Value) : v.Legible → Reads v v.told := by
  induction v using Value.ofParts with
  | hnull => exact fun _ _ rest fuel _ _ => readValue_null fuel rest
  | hlost => exact fun _ _ rest fuel _ _ => readValue_null fuel rest
  | hboolean b => exact fun _ _ rest fuel _ _ => readValue_boolean fuel b rest
  | hinteger n => exact fun h _ rest fuel hrest _ => readValue_integer h fuel hrest
  | hreal x => exact fun h _ rest fuel hrest _ => readValue_real h fuel hrest
  | hstring s => exact fun _ _ rest fuel _ _ => readValue_text fuel s rest
  | harray items ih =>
    intro h depth rest fuel _ hfuel
    cases items with
    | nil =>
      have hempty : (Value.prettyAt depth (.array [])).toList = ['[', ']'] := by
        change ("[" ++ "]").toList = _
        decide
      rw [hempty]
      rfl
    | cons v vs =>
      rw [toList_array] at hfuel ⊢
      rw [List.length_cons, List.length_append] at hfuel
      have hlength := length_newLine (depth + 1)
      obtain ⟨fuel, rfl⟩ := Nat.exists_eq_add_one_of_ne_zero (by omega : fuel ≠ 0)
      rw [List.cons_append, List.append_assoc]
      refine readValue_items ?_
      rw [readItems_newLine]
      exact readItems_lines (fun w hw => ih w hw (LegibleItems.mem h w hw)) (List.cons_ne_nil v vs)
        depth rest (by omega)
  | hobject members ih =>
    intro h depth rest fuel _ hfuel
    cases members with
    | nil =>
      have hempty : (Value.prettyAt depth (.object [])).toList = ['\x7b', '\x7d'] := by
        change ("\x7b" ++ "\x7d").toList = _
        decide
      rw [hempty]
      rfl
    | cons m ms =>
      rw [toList_object] at hfuel ⊢
      rw [List.length_cons, List.length_append] at hfuel
      have hlength := length_newLine (depth + 1)
      obtain ⟨fuel, rfl⟩ := Nat.exists_eq_add_one_of_ne_zero (by omega : fuel ≠ 0)
      rw [List.cons_append, List.append_assoc]
      refine readValue_members ?_
      rw [readMembers_newLine]
      exact readMembers_lines (fun n hn => ih n hn (LegibleMembers.mem h n hn))
        (List.cons_ne_nil m ms) depth rest (by omega)

theorem read_pretty {v : Value} (h : v.Legible) : read v.pretty = some v.told := by
  have hvalue : readValue (2 * v.pretty.toList.length + 2) (v.pretty.toList ++ []) =
      some (v.told, []) :=
    reads_told v h 0 [] _ (by simp [EndsValue]) (by rw [Value.pretty]; omega)
  rw [List.append_nil] at hvalue
  simp only [read, hvalue]
  rfl

end DerivedStats.Json
