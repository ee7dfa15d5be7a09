/-!
# Powers and sums

Where `EndpointWatch.Arith` is open, powers of numbers and sums over lists of them are those of the core library, whatever
algebra is imported beside it. An exponent that is a numeral has to tell its type for that.
-/

namespace EndpointWatch.Arith

attribute [scoped instance (high)] instPowNat Zero.ofOfNat0

end EndpointWatch.Arith
