import Mathlib.Data.List.AList

/-!
# Addresses and their translation

* `Address`, `Addresses`, `AddressTranslation`: a server's URI, the configured addresses, and the
  map from public to private addresses.
* `toPrivate_toPublic`: the public address found for a private one translates back to it.
-/

namespace TypeDBDriver

/-- The parts of a URI. The library compares hosts without regard to case, and the scheme too, so
that `scheme` and `authority` stand for their lower-case normal forms. -/
structure Address where
  scheme : Option String := none
  authority : String
  path : String := ""
  deriving DecidableEq, Repr, Inhabited

/-- `Display` of an address. -/
def Address.display (a : Address) : String := a.authority

/-- `Debug` of an address: the whole URI. -/
def Address.debug (a : Address) : String :=
  (match a.scheme with | some s => s ++ "://" | none => "") ++ a.authority ++ a.path

/-- A hash map; the entries stand in its iteration order. -/
abbrev HashMap (κ ν : Type) : Type := AList fun _ : κ => ν

/-- The configured addresses of a driver. -/
inductive Addresses
  | direct (addresses : List Address)
  /-- public : private -/
  | translated (translation : HashMap Address Address)
  deriving DecidableEq

/-- public : private -/
inductive AddressTranslation
  | mapping (mapping : HashMap Address Address)

namespace AddressTranslation

def toPrivate : AddressTranslation → Address → Option Address
  | mapping m, address => m.lookup address

def toPublic : AddressTranslation → Address → Option Address
  | mapping m, address => (m.entries.find? fun e => decide (e.2 = address)).map fun e => e.1

theorem toPrivate_toPublic {t : AddressTranslation} {k p : Address} (h : t.toPublic k = some p) :
    t.toPrivate p = some k := by
  obtain ⟨m⟩ := t
  obtain ⟨e, he, rfl⟩ := Option.map_eq_some_iff.mp h
  have hk : e.2 = k := by simpa using List.find?_some he
  rw [← hk]
  exact AList.mem_lookup_iff.mpr (List.mem_of_find?_eq_some he)

end AddressTranslation

namespace Addresses

def fromAddresses (addresses : List Address) : Addresses := direct addresses

/-- The addresses to connect to. -/
def addresses : Addresses → List Address
  | direct as => as
  | translated m => m.keys

def addressTranslation : Addresses → AddressTranslation
  | direct as => .mapping (as.map fun a => (⟨a, a⟩ : (_ : Address) × Address)).toAList
  | translated m => .mapping m

/-- `Display` of a collection of addresses. -/
def display : Addresses → String
  | direct as => "[" ++ ", ".intercalate (as.map Address.display) ++ "]"
  | translated m => "\x7b" ++ ", ".intercalate
      (m.entries.map fun e => e.1.display ++ ": " ++ e.2.display) ++ "\x7d"

end Addresses

end TypeDBDriver
