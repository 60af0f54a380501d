/-!
What compiles patterns.

A program asks only whether a pattern is taken, and passes on what is said of one that is refused.
The libraries that answer stand outside of it.
-/

namespace CheckBinding.Pattern

/-- The libraries that compile patterns: those of metric filters, and those of log fields. -/
class Engine where
  /-- What is said of the pattern of a metric filter that is refused. -/
  refusal? : String → Option String
  /-- Whether the pattern of a log field is taken. -/
  takes : String → Bool

end CheckBinding.Pattern
