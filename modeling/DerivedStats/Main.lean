import DerivedStats.CommandLine.Reply

/-! The command line: reads the configuration file, if one is named, and prints the answer. -/

namespace DerivedStats.CommandLine

def contentOf (path : String) : IO (Option String) := do
  try
    return some (← IO.FS.readFile path)
  catch _ =>
    return none

def replyTo (r : Request) : IO Reply := do
  let seed ← IO.rand 0 (UInt64.size - 1)
  match r.path? with
  | none => return r.reply none (Random.seeded (UInt64.ofNat seed))
  | some path => return r.reply (← contentOf path) (Random.seeded (UInt64.ofNat seed))

def answerTo (args : List String) : IO Reply :=
  match Request.ofArgs args with
  | .error stop => return stop.reply
  | .ok r => replyTo r

end DerivedStats.CommandLine

def main (args : List String) : IO UInt32 := do
  let reply ← DerivedStats.CommandLine.answerTo args
  for remark in reply.remarks do
    IO.eprintln remark
  IO.print reply.output
  return reply.status.code
