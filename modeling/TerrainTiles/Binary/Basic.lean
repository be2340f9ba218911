import TerrainTiles.Binary.Rounding

/-!
# Binary floating-point numbers

A number of a format is not-a-number, a signed infinity, or a sign with a
representable magnitude. Both zeros are kept apart. Every operation computes its
exact result on integers and rounds once, to nearest with ties to even; the
magnitude field is therefore always representable, and a finite number is
determined by its sign and magnitude.

Comparisons follow the usual order: not-a-number is unordered, and the two zeros
are equal. `=` tells apart what `eq` identifies.
-/

namespace TerrainTiles

inductive Binary (f : Format) where
  | nan
  | infinite (negative : Bool)
  | finite (negative : Bool) (units : Nat) (fits : f.Fits units)
  deriving DecidableEq

/-- Numbers of the 64-bit format. -/
abbrev Double := Binary Format.binary64

/-- Numbers of the 32-bit format. -/
abbrev Single := Binary Format.binary32

namespace Binary

variable {f : Format}

-- ---------------------------------------------------------------------------
-- Construction
-- ---------------------------------------------------------------------------

def zero (negative : Bool := false) : Binary f := .finite negative 0 f.fits_zero

instance : Inhabited (Binary f) := ⟨zero⟩

/-- `num / den` units with the given sign, rounded; an infinity from the
format's bound on. -/
def ofRatio (negative : Bool) (num den : Nat) : Binary f :=
  if h : f.round num den < f.bound then
    .finite negative (f.round num den) (f.round_fits num den h)
  else .infinite negative

def ofInt (n : Int) : Binary f := ofRatio (decide (n < 0)) (n.natAbs * f.one) 1

instance {n : Nat} : OfNat (Binary f) n := ⟨ofInt n⟩

/-- `± digits * 10 ^ exponent`. Exponents so far out that the result is
certainly an infinity or a zero are settled without forming the power. -/
def ofDecimal (negative : Bool) (digits : Nat) (exponent : Int) : Binary f :=
  let magnitude : Int := (digits.log2 / 4 : Nat) + exponent
  if digits = 0 then zero negative
  else if (f.width : Int) < magnitude then .infinite negative
  else if magnitude + (digits.log2 : Int) < -(f.unitExponent + 2 : Int) then zero negative
  else if 0 ≤ exponent then ofRatio negative (digits * Nat.pow 10 exponent.toNat * f.one) 1
  else ofRatio negative (digits * f.one) (Nat.pow 10 (-exponent).toNat)

-- ---------------------------------------------------------------------------
-- Classification
-- ---------------------------------------------------------------------------

def isNaN : Binary f → Bool
  | .nan => true
  | _ => false

def isFinite : Binary f → Bool
  | .finite .. => true
  | _ => false

def isNegative : Binary f → Bool
  | .nan => false
  | .infinite negative => negative
  | .finite negative _ _ => negative

/-- The exact value of a finite number, in units. -/
def toUnits? : Binary f → Option Int
  | .finite negative units _ => some (if negative then -(units : Int) else units)
  | _ => none

-- ---------------------------------------------------------------------------
-- Arithmetic
-- ---------------------------------------------------------------------------

def neg : Binary f → Binary f
  | .nan => .nan
  | .infinite negative => .infinite (!negative)
  | .finite negative units fits => .finite (!negative) units fits

def signed (negative : Bool) (units : Nat) : Int := if negative then -(units : Int) else units

/-- A sum that vanishes is a positive zero unless both terms are negative. -/
def add : Binary f → Binary f → Binary f
  | .finite p m _, .finite q n _ =>
    let sum := signed p m + signed q n
    if sum = 0 then zero (p && q) else ofRatio (decide (sum < 0)) sum.natAbs 1
  | .infinite p, .infinite q => if p = q then .infinite p else .nan
  | .nan, _ | _, .nan => .nan
  | .infinite p, _ => .infinite p
  | _, .infinite q => .infinite q

def sub (x y : Binary f) : Binary f := add x y.neg

def mul : Binary f → Binary f → Binary f
  | .finite p m _, .finite q n _ => ofRatio (p != q) (m * n) f.one
  | .infinite p, .infinite q => .infinite (p != q)
  | .nan, _ | _, .nan => .nan
  | .infinite p, .finite q n _ => if n = 0 then .nan else .infinite (p != q)
  | .finite p m _, .infinite q => if m = 0 then .nan else .infinite (p != q)

def div : Binary f → Binary f → Binary f
  | .finite p m _, .finite q n _ =>
    if n = 0 then if m = 0 then .nan else .infinite (p != q)
    else ofRatio (p != q) (m * f.one) n
  | .infinite p, .finite q _ _ => .infinite (p != q)
  | .finite p _ _, .infinite q => zero (p != q)
  | .infinite _, .infinite _ | .nan, _ | _, .nan => .nan

instance : Neg (Binary f) := ⟨neg⟩
instance : Add (Binary f) := ⟨add⟩
instance : Sub (Binary f) := ⟨sub⟩
instance : Mul (Binary f) := ⟨mul⟩
instance : Div (Binary f) := ⟨div⟩

def convert (g : Format) : Binary f → Binary g
  | .nan => .nan
  | .infinite negative => .infinite negative
  | .finite negative units _ => ofRatio negative (units * g.one) f.one

/-- The greatest integer not above a finite number. -/
def floor? (x : Binary f) : Option Int := x.toUnits?.map (· / (f.one : Int))

-- ---------------------------------------------------------------------------
-- Comparison
-- ---------------------------------------------------------------------------

def lt : Binary f → Binary f → Bool
  | .finite p m _, .finite q n _ => decide (signed p m < signed q n)
  | .nan, _ | _, .nan => false
  | .infinite p, .infinite q => p && !q
  | .infinite p, .finite .. => p
  | .finite .., .infinite q => !q

def eq : Binary f → Binary f → Bool
  | .finite p m _, .finite q n _ => decide (signed p m = signed q n)
  | .infinite p, .infinite q => p = q
  | _, _ => false

def le (x y : Binary f) : Bool := lt x y || eq x y

-- ---------------------------------------------------------------------------
-- Small laws
-- ---------------------------------------------------------------------------

@[simp] theorem isNaN_nan : (nan : Binary f).isNaN = true := rfl
@[simp] theorem isNaN_infinite (p : Bool) : (infinite p : Binary f).isNaN = false := rfl
@[simp] theorem isNaN_finite (p : Bool) (m : Nat) (h : f.Fits m) :
    (finite p m h).isNaN = false := rfl

/-- A rounded quotient is always a number. -/
@[simp] theorem isNaN_ofRatio (p : Bool) (num den : Nat) :
    (ofRatio p num den : Binary f).isNaN = false := by
  unfold ofRatio
  split <;> rfl

theorem ofRatio_units (p : Bool) (units : Nat) (h : f.Fits units) :
    ofRatio p units 1 = finite p units h := by
  have hr := f.round_of_fits units h
  simp only [ofRatio, hr, h.2, dite_true]

theorem eq_self_iff (x : Binary f) : eq x x = true ↔ x.isNaN = false := by
  cases x <;> simp [eq]

theorem eq_comm (x y : Binary f) : eq x y = eq y x := by
  cases x <;> cases y <;> simp [eq, Eq.comm]

theorem neg_neg (x : Binary f) : x.neg.neg = x := by
  cases x <;> simp [neg]

theorem lt_irrefl (x : Binary f) : lt x x = false := by
  cases x <;> simp [lt]

end Binary

end TerrainTiles
