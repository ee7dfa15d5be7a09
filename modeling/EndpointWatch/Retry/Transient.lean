import EndpointWatch.Text.Search

/-!
# Messages of transient failures

A message looks transient when its lower case holds one of twelve fragments, all of ASCII letters, spaces
and a slash. So only characters whose lower case holds an ASCII letter take part in the comparison: the
capitals, the Kelvin sign, and the dotted capital I, whose lower case is `i` and a combining dot.
-/

namespace EndpointWatch.Retry

/-- The lower case of a character as far as ASCII letters appear in it. -/
def lowered (c : Char) : List Char :=
  if c = '\u212a' then ['k']
  else if c = '\u0130' then ['i', '\u0307']
  else [c.toLower]

/-- Fragments of messages that usually mean a transient network failure. -/
def transientFragments : List String :=
  ["connection refused", "connection reset", "i/o timeout", "temporary failure", "deadline exceeded",
   "no such host", "broken pipe", "connection timeout", "read timeout", "write timeout",
   "network unreachable", "too many open files"]

/-- Whether a message looks like a transient network failure, whatever its case. -/
def isTransient (message : String) : Bool :=
  let text := message.toList.flatMap lowered
  transientFragments.any fun part => Text.occursIn part.toList text

end EndpointWatch.Retry
