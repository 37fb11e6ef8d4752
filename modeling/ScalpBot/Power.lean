/-!
# Powers

Within the library `b ^ n` is the power that core defines, also beside another library that declares
powers of its own, so that a definition means the same wherever it is read.
-/

namespace ScalpBot

attribute [scoped instance (high)] instPowNat
attribute [default_instance 100000] instPowNat

end ScalpBot
