import Mathlib.Data.List.Dedup
import TypeDBDriver.Common.Error

/-!
# Servers and replicas

* `HashSet`: a hash set with its iteration order; `HashSet.collect` builds one in an order that a
  `HashOrder` chooses.
* `Server`, `AvailableServer`, `ReplicationStatus` and the translation of their addresses.
* `findPrimaryReplica`: the primary of the greatest term.
-/

namespace TypeDBDriver

/-- A hash set: its elements in iteration order. -/
structure HashSet (α : Type) where
  iter : List α
  nodup : iter.Nodup

/-- The order in which a hash set that is being built will be iterated. -/
structure HashOrder (α : Type) where
  order : List α → List α
  perm : ∀ l, (order l).Perm l

namespace HashSet

variable {α : Type}

instance : Membership α (HashSet α) := ⟨fun s a => a ∈ s.iter⟩

theorem mem_iter {s : HashSet α} {a : α} : a ∈ s.iter ↔ a ∈ s := Iff.rfl

def collect [DecidableEq α] (h : HashOrder α) (l : List α) : HashSet α :=
  ⟨h.order l.dedup, (h.perm _).nodup_iff.mpr l.nodup_dedup⟩

theorem mem_collect [DecidableEq α] {h : HashOrder α} {l : List α} {a : α} :
    a ∈ collect h l ↔ a ∈ l :=
  (h.perm _).mem_iff.trans List.mem_dedup

theorem collect_iter_eq_nil [DecidableEq α] {h : HashOrder α} {l : List α} :
    (collect h l).iter = [] ↔ l = [] := by
  rw [List.eq_nil_iff_forall_not_mem, List.eq_nil_iff_forall_not_mem]
  exact forall_congr' fun a => not_congr mem_collect

end HashSet

/-- The replication role of a server. -/
inductive ReplicationRole
  | primary
  | candidate
  | secondary
  deriving DecidableEq

/-- The replication metadata and state of an individual server as a cluster replica. -/
structure ReplicationStatus where
  id : ℕ
  role : Option ReplicationRole
  term : Option ℕ
  deriving DecidableEq

/-- A `Server` with a known connection address. -/
structure AvailableServer where
  privateAddress : Address
  publicAddress : Option Address
  replicationStatus : Option ReplicationStatus
  deriving DecidableEq

namespace AvailableServer

def fromPrivate (privateAddress : Address) (replicationStatus : Option ReplicationStatus) :
    AvailableServer :=
  ⟨privateAddress, none, replicationStatus⟩

def translated (s : AvailableServer) (t : AddressTranslation) : AvailableServer :=
  match t.toPublic s.privateAddress with
  | some p => { s with publicAddress := some p }
  | none => s

/-- The address this server is hosted at. -/
def address (s : AvailableServer) : Address := s.publicAddress.getD s.privateAddress

def role (s : AvailableServer) : Option ReplicationRole :=
  s.replicationStatus.bind ReplicationStatus.role

def isPrimary (s : AvailableServer) : Bool := s.role = some .primary

/-- The cluster protocol term of this replica. -/
def term (s : AvailableServer) : Option ℕ := s.replicationStatus.bind ReplicationStatus.term

end AvailableServer

/-- The metadata and state of an individual server of a driver connection. -/
inductive Server
  | available (server : AvailableServer)
  | unavailable (replicationStatus : Option ReplicationStatus)
  deriving DecidableEq

namespace Server

def availableFromPrivate (privateAddress : Address)
    (replicationStatus : Option ReplicationStatus) : Server :=
  available (.fromPrivate privateAddress replicationStatus)

def translated (s : Server) (t : AddressTranslation) : Server :=
  match s with
  | available s => available (s.translated t)
  | unavailable status => unavailable status

end Server

/-- A server as the protocol lists it, its address and its role already decoded. -/
structure ServerProto where
  address : Option Address
  replicationStatus : Option ReplicationStatus
  deriving DecidableEq

namespace Server

def fromProto (proto : ServerProto) : Server :=
  match proto.address with
  | some address => availableFromPrivate address proto.replicationStatus
  | none => unavailable proto.replicationStatus

end Server

/-- `filter_available_replicas!` -/
def filterAvailableReplicas (servers : List Server) : List AvailableServer :=
  servers.filterMap fun
    | .available s => some s
    | .unavailable _ => none

theorem mem_filterAvailableReplicas {servers : List Server} {s : AvailableServer} :
    s ∈ filterAvailableReplicas servers ↔ .available s ∈ servers := by
  rw [filterAvailableReplicas, List.mem_filterMap]
  constructor
  · rintro ⟨x, hx, h⟩
    cases x <;> simp_all
  · intro h
    exact ⟨_, h, rfl⟩

/-- `Iterator::max_by_key`: the last of the elements with the greatest key. -/
def maxByKey {α : Type} (key : α → ℕ) (l : List α) : Option α :=
  l.foldl (fun
    | none, x => some x
    | some y, x => if key y ≤ key x then some x else some y) none

/-- `find_primary_replica!` -/
def findPrimaryReplica (replicas : List AvailableServer) : Option AvailableServer :=
  maxByKey (fun r => r.term.getD 0) (replicas.filter AvailableServer.isPrimary)

theorem mem_of_maxByKey {α : Type} {key : α → ℕ} {l : List α} {a : α}
    (h : maxByKey key l = some a) : a ∈ l := by
  have hfold : ∀ (l : List α) (acc : Option α),
      (l.foldl (fun
        | none, x => some x
        | some y, x => if key y ≤ key x then some x else some y) acc) = some a →
        a ∈ l ∨ acc = some a := by
    intro l
    induction l with
    | nil => exact fun acc h => Or.inr h
    | cons x l ih =>
      intro acc h
      rw [List.foldl_cons] at h
      rcases ih _ h with h | h
      · exact Or.inl (List.mem_cons_of_mem _ h)
      · cases acc with
        | none =>
          obtain rfl := Option.some.inj h
          exact Or.inl List.mem_cons_self
        | some y =>
          simp only at h
          split_ifs at h
          · obtain rfl := Option.some.inj h
            exact Or.inl List.mem_cons_self
          · exact Or.inr h
  exact (hfold l none h).resolve_right nofun

theorem le_of_maxByKey {α : Type} {key : α → ℕ} {l : List α} {a : α}
    (h : maxByKey key l = some a) : ∀ b ∈ l, key b ≤ key a := by
  have hfold : ∀ (l : List α) (acc : Option α),
      (l.foldl (fun
        | none, x => some x
        | some y, x => if key y ≤ key x then some x else some y) acc) = some a →
        (∀ b ∈ l, key b ≤ key a) ∧ ∀ y, acc = some y → key y ≤ key a := by
    intro l
    induction l with
    | nil =>
      rintro acc rfl
      exact ⟨nofun, fun y hy => le_of_eq (congrArg key (Option.some.inj hy).symm)⟩
    | cons x l ih =>
      intro acc h
      rw [List.foldl_cons] at h
      obtain ⟨hl, hacc⟩ := ih _ h
      cases acc with
      | none => exact ⟨List.forall_mem_cons.mpr ⟨hacc x rfl, hl⟩, nofun⟩
      | some y =>
        dsimp only at hacc
        split_ifs at hacc with hle
        · have hx := hacc x rfl
          exact ⟨List.forall_mem_cons.mpr ⟨hx, hl⟩, fun z hz => by cases hz; exact le_trans hle hx⟩
        · have hy := hacc y rfl
          refine ⟨List.forall_mem_cons.mpr ⟨le_trans (le_of_lt (not_le.mp hle)) hy, hl⟩, fun z hz => ?_⟩
          cases hz
          exact hy
  exact (hfold l none h).1

theorem mem_of_findPrimaryReplica {replicas : List AvailableServer} {r : AvailableServer}
    (h : findPrimaryReplica replicas = some r) : r ∈ replicas ∧ r.isPrimary = true := by
  have := List.mem_filter.mp (mem_of_maxByKey h)
  exact this

/-- No primary has a greater term. -/
theorem le_of_findPrimaryReplica {replicas : List AvailableServer} {r s : AvailableServer}
    (h : findPrimaryReplica replicas = some r) (hs : s ∈ replicas) (hprimary : s.isPrimary = true) :
    s.term.getD 0 ≤ r.term.getD 0 :=
  le_of_maxByKey h s (List.mem_filter.mpr ⟨hs, hprimary⟩)

end TypeDBDriver
