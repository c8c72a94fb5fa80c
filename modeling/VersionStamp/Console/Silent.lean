/-
Control characters that move the cursor. The console leaves them out before
it counts or places anything.
-/
namespace VersionStamp.Console

/-- Bell, backspace, vertical tab, form feed and carriage return print nothing. -/
def isSilent (c : Char) : Bool :=
  let n := c.toNat
  n == 0x07 || n == 0x08 || n == 0x0B || n == 0x0C || n == 0x0D

end VersionStamp.Console
