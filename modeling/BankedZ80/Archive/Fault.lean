/-!
# Faults of compressed data

Some formats give what they hold when their data ends too early, so that this is told apart from data
that breaks the rules.
-/

namespace BankedZ80.Archive

/-- Why decompression stopped before its end. -/
inductive Fault where
  /-- The data ended. -/
  | truncated
  /-- The data breaks the rules of its format. -/
  | corrupt
deriving DecidableEq, Repr

end BankedZ80.Archive
