import Mathlib.Data.List.AList
import Mathlib.Data.Rat.Defs

/-!
# Identifiers, collections and errors

The types every service of the backend shares.  An identifier is the canonical
text of a database id; a collection is a finite map from ids to rows.  An error
carries the message its service throws.
-/

namespace Lalaba

abbrev ObjectId : Type := String

abbrev Uid : Type := String

abbrev Instant : Type := Nat

abbrev Collection (Row : Type) : Type := AList (fun _ : String => Row)

-- The literals that several modules use in their data.
instance literal2 : Nat.AtLeastTwo 2 := ⟨by decide⟩
instance literal4 : Nat.AtLeastTwo 4 := ⟨by decide⟩
instance literal7 : Nat.AtLeastTwo 7 := ⟨by decide⟩
instance literal10 : Nat.AtLeastTwo 10 := ⟨by decide⟩
instance literal5000 : Nat.AtLeastTwo 5000 := ⟨by decide⟩

/-- What a service, the ODM or the database throws. -/
inductive ServiceError where
  | badRequest (message : String)
  | forbidden (message : String)
  | notFound (message : String)
  | conflict (message : String)
  | plain (message : String)
  /-- A unique index refused an insert (`E11000`). -/
  | duplicateKey (index : String)
  /-- `save` found no row with the document's id. -/
  | documentNotFound
  /-- `save` of a whole array found another `__v`. -/
  | versionError
  /-- A property was read of `null`. -/
  | nullAccess
deriving DecidableEq

/-- The fields of a branch that the services read. -/
structure Branch where
  uid : Uid
  branchName : String
  isActive : Bool
  isOnline : Bool
  allowsPayAtHandover : Option Bool
deriving DecidableEq

/-- The address format that branches, washers and customers share. -/
structure BranchAddress where
  unit : Option String
  regionName : String
  provinceName : String
  cityMunicipalityName : String
  barangayName : String
  streetAddress : String
  zipCode : Option String
deriving DecidableEq

structure MapLocation where
  latitude : ℚ
  longitude : ℚ
deriving DecidableEq

end Lalaba
