/-!
# Powers

A power of a natural number is always the one of the core library, so that a statement says the same
next to an algebraic structure that brings a power of its own.
-/

attribute [instance(high)] instPowNat

attribute [default_instance 10001] instPowNat
