/-
  Powers of whole numbers. A library may bring powers of its own, of any monoid; the built-in ones
  are preferred, so that a bound such as `2 ^ 64` is one term in the program and in its theory.
-/

attribute [instance (2000), default_instance (20000)] instPowNat
