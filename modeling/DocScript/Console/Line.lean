import DocScript.Console.Wrap

/-!
# Lines on a terminal

A terminal shows no bells, backspaces, vertical tabs, form feeds and carriage returns, a tab goes
on to the next stop, and text that is too long for a line goes on in the next one.
-/

namespace DocScript.Console

def terminalColumns : Nat := 1000

def line (s : String) : String :=
  String.join (((Styled.ofString s).wrap terminalColumns ⟨none, .fold, true⟩).map fun l =>
    String.ofList (limitStretches terminalColumns l.stretches).flatten ++ "\n")

end DocScript.Console
