/-!
# Powers

The powers of two and of ten that scale binary and decimal significands.
-/

namespace BlogMigration
namespace Number

def twoTo (exponent : Nat) : Nat :=
  Nat.pow 2 exponent

def tenTo (exponent : Nat) : Nat :=
  Nat.pow 10 exponent

end Number
end BlogMigration
