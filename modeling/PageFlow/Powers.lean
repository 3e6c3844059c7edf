/-! Powers of natural numbers are those of the standard library, also next to a library that has
an instance of its own for them. -/

attribute [instance (high)] instPowNat
attribute [default_instance (high + 1)] instPowNat
