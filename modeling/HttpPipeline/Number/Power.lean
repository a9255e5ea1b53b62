/-!
# Powers

`2 ^ 64` and the like bound most of the numbers of the pipeline. Such a power is
always the one of the core library, on which the arithmetic of numerals computes,
whatever else a module that reasons about it has in scope.
-/

namespace HttpPipeline

@[default_instance 10001]
instance (priority := high) corePower {α : Type u} [NatPow α] : Pow α Nat :=
  instPowNat

end HttpPipeline
