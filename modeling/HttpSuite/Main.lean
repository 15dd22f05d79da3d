import HttpSuite.Run

/-!
# The program

Runs the compiler on the files of the system. Results go to the standard output, notices to the
standard error.
-/

namespace HttpSuite

/-- Says whether an action ends without an error. -/
def succeeds (action : IO Unit) : IO Bool := do
  try
    action
    return true
  catch _ => return false

instance : Host IO where
  read? path := do
    try
      return some (← IO.FS.readBinFile path)
    catch _ => return none
  write path content := succeeds (IO.FS.writeBinFile path content)
  rename source target := succeeds (IO.FS.rename source target)
  remove path := do
    let _ ← succeeds (IO.FS.removeFile path)
  print text := do
    let out ← IO.getStdout
    out.putStr text
    out.flush
  tell n := n.lines.forM fun line => IO.eprintln line

end HttpSuite

def main (args : List String) : IO UInt32 := do
  let code ← HttpSuite.Host.run args
  if code = 2 then IO.eprintln "For more information, try '--help'."
  return code.toUInt32
