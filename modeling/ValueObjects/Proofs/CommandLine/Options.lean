import ValueObjects.CommandLine.Run

/-!
# Options

Which path the options of a command line name. What is named is taken as it is written.
-/

namespace ValueObjects.CommandLine

namespace Reading

variable {r : Reading}

end Reading

end ValueObjects.CommandLine
