import SheetFill.Value.Basic

/-!
# Order of sets

The order in which the items of a set of numbers are gone through. The items lie in a table whose
size is a power of two, each where its hash leads it: at first as many places on as the hash leaves
over, then a few places further, then at places that more and more of the hash decides. Items that
are no numbers have hashes that nothing here depends on; a set with such items keeps the order in
which they were added.
-/
namespace SheetFill.Value

/-- Hashes of numbers are counted modulo this prime. -/
def hashPrime : Nat := 2305843009213693951

/-- The number of bits of the prime; two to this power is one modulo the prime. -/
def hashBits : Nat := 61

/-- Hashes as the table takes them lie below this; negative ones count from it. -/
def hashRange : Nat := Nat.pow 2 64

/-- The hash of a number with the given remainder. Minus one is not used as a hash. -/
def signedHash (negative : Bool) (remainder : Nat) : Nat :=
  if !negative || remainder == 0 then remainder
  else if remainder == 1 then hashRange - 2
  else hashRange - remainder

/-- The hash of `mantissa * 2 ^ exponent`, which depends on the value alone. -/
def hashOfBinary (b : Binary64.Finite) : Nat :=
  let shift := (b.exponent.emod hashBits).toNat
  signedHash b.negative (b.mantissa * Nat.pow 2 shift % hashPrime)

def infiniteHash : Nat := 314159

def hash? (v : Value) : Option Nat :=
  match v with
  | .real (.finite b) => some (hashOfBinary b)
  | .real (.infinite negative) => some (signedHash negative infiniteHash)
  | v => v.whole?.map (fun n => signedHash (n < 0) (n.natAbs % hashPrime))

abbrev Table := Array (Option (Nat × Value))

/-- How many places behind the one that a hash leads to are tried at once, where there are as
many. -/
def nearPlaces : Nat := 9

def emptyPlace? (t : Table) (i : Nat) : (count : Nat) → Option Nat
  | 0 => none
  | count + 1 => if (t.getD i none).isNone then some i else emptyPlace? t (i + 1) count

/-- The empty place that a hash leads to; `perturb` is the part of it that has not yet had its say,
and place `i` is where it has led so far. -/
def placeFor (t : Table) : (fuel i perturb : Nat) → Nat
  | 0, i, _ => i
  | fuel + 1, i, perturb =>
    let count := if i + nearPlaces < t.size then nearPlaces + 1 else 1
    match emptyPlace? t i count with
    | some place => place
    | none => placeFor t fuel ((i * 5 + 1 + perturb / 32) % t.size) (perturb / 32)

/-- The table with one more item. The whole hash has had its say long before the fuel is used up,
and from then on all places are tried. -/
def addItem (t : Table) (item : Nat × Value) : Table :=
  let place := placeFor t (t.size + 64) (item.1 % t.size) item.1
  t.setIfInBounds place (some item)

/-- The first of `size` and its doubles that is above `least`. -/
def tableSize (least : Nat) : (fuel size : Nat) → Nat
  | 0, size => size
  | fuel + 1, size => if size ≤ least then tableSize least fuel (size * 2) else size

def emptyTable (least : Nat) : Table := Array.replicate (tableSize least 64 8) none

/-- The table with one more item. When three fifths are taken it is made anew, with four places for
each item, or two if there are very many. -/
def addWithRoom (t : Table) (item : Nat × Value) : Table :=
  let t := addItem t item
  let used := t.toList.filterMap id
  if used.length * 5 < (t.size - 1) * 3 then t
  else used.foldl addItem (emptyTable (used.length * if 50000 < used.length then 2 else 4))

/-- The items of a set in the order in which they are gone through. Room for all of them is made
beforehand if they do not fit into the smallest table. -/
def inSetOrder (items : List Value) : List Value :=
  match items.mapM (fun v => v.hash?.map (·, v)) with
  | none => items
  | some items =>
    let least := if items.length * 5 < 7 * 3 then 0 else items.length * 2
    (items.foldl addWithRoom (emptyTable least)).toList.filterMap (·.map (·.2))

end SheetFill.Value
