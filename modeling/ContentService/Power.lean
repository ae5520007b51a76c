/-!
# Powers

Powers of whole numbers are the core library's wherever they are written, also next to a library
that brings powers of its own.
-/

attribute [default_instance (high + 1), instance (high + 1)] instPowNat
