/-!
# Notices of the debugger

The debugger has no structured protocol: what is known of its state comes from these texts in the
lines that it prints.
-/

namespace DebugControl.Notice

def lineSeparator : String := "\n"

def simplePrompt : String := "> "

/-- The pattern of the prompt shown for the current thread, such as `main[1] `. -/
def threadPromptPattern : String := "[a-zA-Z0-9_-][a-zA-Z0-9_-]*\\[[1-9][0-9]*\\] [ >]*$"

def breakpointHit : String := "Breakpoint hit:"

def applicationExit : String := "The application exited"

def applicationDisconnected : String := "The application has been disconnected"

end DebugControl.Notice
