import Mathlib.Data.List.AList
import Mathlib.Tactic

/-!
# Maps, heaps and channels

A `Dict` is a finite map whose keys are pairwise distinct. Reading, writing and
deleting are those of the association lists of Mathlib. What a hash map adds is
that a loop over it visits every key once in an order nobody promises: `range`
takes that order as an argument, and every enumeration of the keys is obtained
from some argument, so that a statement about all arguments is a statement
about all iteration orders.

A `Heap` holds the objects that several maps share by reference. A `Chan` is a
bounded buffer with its whole history: the buffered items are the sent ones
less those already received.
-/
namespace SpatialServer

abbrev Dict (K V : Type*) := AList (fun _ : K => V)

namespace Dict

variable {K V : Type*} [DecidableEq K]

def get (m : Dict K V) (k : K) : Option V := m.lookup k

def set (m : Dict K V) (k : K) (v : V) : Dict K V := m.insert k v

def del (m : Dict K V) (k : K) : Dict K V := m.erase k

@[simp] theorem get_empty (k : K) : get (∅ : Dict K V) k = none := AList.lookup_empty k

theorem get_set (m : Dict K V) (k : K) (v : V) (a : K) :
    (m.set k v).get a = if a = k then some v else m.get a := by
  unfold get set
  split_ifs with h
  · subst a; exact AList.lookup_insert m
  · exact AList.lookup_insert_ne h

theorem get_del (m : Dict K V) (k a : K) :
    (m.del k).get a = if a = k then none else m.get a := by
  unfold get del
  split_ifs with h
  · subst a; exact AList.lookup_erase k m
  · exact AList.lookup_erase_ne h

@[simp] theorem get_set_self (m : Dict K V) (k : K) (v : V) : (m.set k v).get k = some v := by
  simp [get_set]

@[simp] theorem get_set_ne (m : Dict K V) {k a : K} (v : V) (h : a ≠ k) :
    (m.set k v).get a = m.get a := by simp [get_set, h]

@[simp] theorem get_del_self (m : Dict K V) (k : K) : (m.del k).get k = none := by
  simp [get_del]

@[simp] theorem get_del_ne (m : Dict K V) {k a : K} (h : a ≠ k) :
    (m.del k).get a = m.get a := by simp [get_del, h]

theorem get_set_eq_update (m : Dict K V) (k : K) (v : V) :
    (m.set k v).get = Function.update m.get k (some v) := by
  funext a
  rw [get_set, Function.update_apply]

theorem get_del_eq_update (m : Dict K V) (k : K) :
    (m.del k).get = Function.update m.get k none := by
  funext a
  rw [get_del, Function.update_apply]

theorem mem_keys_iff (m : Dict K V) (k : K) : k ∈ m.keys ↔ (m.get k).isSome := by
  rw [get, AList.lookup_isSome, AList.mem_keys]

/-- The keys in the order a loop visits them: first those the environment
names, as it names them, then whatever it forgot. An environment that names all
of them once has its way. -/
def range (order : List K) (m : Dict K V) : List K :=
  order.dedup.filter (· ∈ m.keys) ++ m.keys.filter (· ∉ order)

theorem mem_range_iff (order : List K) (m : Dict K V) (k : K) :
    k ∈ m.range order ↔ (m.get k).isSome := by
  rw [← mem_keys_iff]
  by_cases h : k ∈ order <;> simp [range, h]

theorem mem_range_iff_exists (order : List K) (m : Dict K V) (k : K) :
    k ∈ m.range order ↔ ∃ v, m.get k = some v := by
  rw [mem_range_iff, Option.isSome_iff_exists]

/-- No key is visited twice. -/
theorem nodup_range (order : List K) (m : Dict K V) : (m.range order).Nodup := by
  apply List.Nodup.append
  · exact (List.nodup_dedup order).filter _
  · exact m.keys_nodup.filter _
  · intro k hk hk'
    simp only [List.mem_filter, List.mem_dedup, decide_eq_true_eq] at hk hk'
    exact hk'.2 hk.1

/-- Two orders of one map visit the same keys. -/
theorem perm_range {m m' : Dict K V} (h : m.get = m'.get) (order order' : List K) :
    (m.range order).Perm (m'.range order') := by
  rw [List.perm_ext_iff_of_nodup (nodup_range _ _) (nodup_range _ _)]
  intro k
  rw [mem_range_iff, mem_range_iff, h]

def delAll (m : Dict K V) (ks : List K) : Dict K V := ks.foldl (fun m k => m.del k) m

theorem get_delAll (m : Dict K V) (ks : List K) (a : K) :
    (m.delAll ks).get a = if a ∈ ks then none else m.get a := by
  induction ks generalizing m with
  | nil => simp [delAll]
  | cons k ks ih =>
    change ((m.del k).delAll ks).get a = _
    rw [ih, get_del]
    by_cases h : a = k <;> simp [h]

theorem isSome_of_isSome_del {m : Dict K V} {k a : K} (h : ((m.del k).get a).isSome) :
    (m.get a).isSome := by
  rw [get_del] at h
  split_ifs at h
  · cases h
  · exact h

theorem isSome_of_isSome_delAll {m : Dict K V} {ks : List K} {a : K}
    (h : ((m.delAll ks).get a).isSome) : (m.get a).isSome := by
  rw [get_delAll] at h
  split_ifs at h
  · cases h
  · exact h

/-- The set of the elements of a list, as a map to the unit type. -/
def ofList (l : List K) : Dict K Unit := l.foldl (fun m k => m.set k ()) ∅

theorem isSome_get_foldl_set (l : List K) (m : Dict K Unit) (k : K) :
    ((l.foldl (fun m k => m.set k ()) m).get k).isSome ↔ k ∈ l ∨ (m.get k).isSome := by
  induction l generalizing m with
  | nil => simp
  | cons a l ih =>
    rw [List.foldl_cons, ih]
    by_cases h : k = a <;> simp [h]

@[simp] theorem isSome_get_ofList (l : List K) (k : K) :
    ((ofList l).get k).isSome ↔ k ∈ l := by
  simp [ofList, isSome_get_foldl_set]

end Dict

/-- Objects by reference. Unallocated references read as the default object,
which no allocated reference is ever compared with. -/
structure Heap (α : Type*) where
  cell : ℕ → α
  next : ℕ

namespace Heap

variable {α : Type*}

def empty [Inhabited α] : Heap α := ⟨fun _ => default, 0⟩

def write (h : Heap α) (r : ℕ) (a : α) : Heap α := { h with cell := Function.update h.cell r a }

/-- The fresh reference is the old `next`. -/
def alloc (h : Heap α) (a : α) : Heap α := ⟨Function.update h.cell h.next a, h.next + 1⟩

@[simp] theorem next_alloc (h : Heap α) (a : α) : (h.alloc a).next = h.next + 1 := rfl

@[simp] theorem next_write (h : Heap α) (r : ℕ) (a : α) : (h.write r a).next = h.next := rfl

@[simp] theorem cell_write_self (h : Heap α) (r : ℕ) (a : α) : (h.write r a).cell r = a := by
  simp [write]

@[simp] theorem cell_write_ne (h : Heap α) {r q : ℕ} (a : α) (hne : q ≠ r) :
    (h.write r a).cell q = h.cell q := by simp [write, hne]

@[simp] theorem cell_alloc_next (h : Heap α) (a : α) : (h.alloc a).cell h.next = a := by
  simp [alloc]

theorem cell_alloc_of_lt (h : Heap α) (a : α) {q : ℕ} (hq : q < h.next) :
    (h.alloc a).cell q = h.cell q := by
  simp [alloc, Nat.ne_of_lt hq]

/-- Two heaps of one size whose objects are related one by one. -/
structure Rel (R : α → α → Prop) (h h' : Heap α) : Prop where
  next : h'.next = h.next
  cell : ∀ r, R (h.cell r) (h'.cell r)

namespace Rel

variable {R : α → α → Prop} {h h' : Heap α}

theorem write (hrel : Rel R h h') (r : ℕ) {a b : α} (hab : R a b) :
    Rel R (h.write r a) (h'.write r b) := by
  refine ⟨hrel.next, fun q => ?_⟩
  by_cases hq : q = r
  · subst q; simpa using hab
  · simpa [hq] using hrel.cell q

theorem write_right (hrefl : ∀ a, R a a) {r : ℕ} {a : α} (ha : R (h.cell r) a) :
    Rel R h (h.write r a) := by
  refine ⟨rfl, fun q => ?_⟩
  by_cases hq : q = r
  · subst q; simpa using ha
  · simpa [hq] using hrefl _

theorem alloc (hrel : Rel R h h') {a b : α} (hab : R a b) : Rel R (h.alloc a) (h'.alloc b) := by
  refine ⟨congrArg (· + 1) hrel.next, fun q => ?_⟩
  by_cases hq : q = h.next
  · subst q
    rw [cell_alloc_next, ← hrel.next, cell_alloc_next]
    exact hab
  · have hq' : q ≠ h'.next := hrel.next ▸ hq
    simpa [Heap.alloc, hq, hq'] using hrel.cell q

end Rel

end Heap

/-- A bounded channel. The history makes what was ever accepted, in order, a
part of the state; only its unreceived tail can influence a run. -/
structure Chan (α : Type*) where
  cap : ℕ
  sent : List α
  received : ℕ
  received_le : received ≤ sent.length

namespace Chan

variable {α : Type*}

def make (cap : ℕ) : Chan α := ⟨cap, [], 0, le_rfl⟩

def buffered (c : Chan α) : List α := c.sent.drop c.received

/-- A non-blocking send: a full channel refuses the item. -/
def trySend (c : Chan α) (a : α) : Option (Chan α) :=
  if c.buffered.length < c.cap then
    some ⟨c.cap, c.sent ++ [a], c.received, by have := c.received_le; simp; omega⟩
  else none

/-- A non-blocking receive of the oldest buffered item. -/
def recv (c : Chan α) : Option (α × Chan α) :=
  if h : c.received < c.sent.length then
    some (c.sent[c.received], ⟨c.cap, c.sent, c.received + 1, h⟩)
  else none

theorem trySend_sent {c c' : Chan α} {a : α} (h : c.trySend a = some c') :
    c'.sent = c.sent ++ [a] := by
  unfold trySend at h
  split_ifs at h
  cases h; rfl

theorem trySend_buffered {c c' : Chan α} {a : α} (h : c.trySend a = some c') :
    c'.buffered = c.buffered ++ [a] := by
  unfold trySend at h
  split_ifs at h
  cases h
  exact List.drop_append_of_le_length c.received_le

/-- A send succeeds when there is room, and appends. -/
theorem trySend_eq_some {c c' : Chan α} {a : α} (h : c.trySend a = some c') :
    c.buffered.length < c.cap ∧ c'.buffered = c.buffered ++ [a] ∧ c'.cap = c.cap := by
  refine ⟨?_, trySend_buffered h, ?_⟩
  · by_contra hfull
    simp [trySend, hfull] at h
  · unfold trySend at h
    split_ifs at h
    cases h; rfl

theorem trySend_eq_none_iff {c : Chan α} {a : α} :
    c.trySend a = none ↔ c.cap ≤ c.buffered.length := by
  simp [trySend]

theorem recv_eq_some {c c' : Chan α} {a : α} (h : c.recv = some (a, c')) :
    c.buffered = a :: c'.buffered ∧ c'.sent = c.sent ∧ c'.cap = c.cap := by
  unfold recv at h
  split_ifs at h with hlt
  cases h
  exact ⟨List.drop_eq_getElem_cons hlt, rfl, rfl⟩

theorem received_of_recv {c c' : Chan α} {a : α} (h : c.recv = some (a, c')) :
    c'.received = c.received + 1 := by
  unfold recv at h
  split_ifs at h
  cases h
  rfl

theorem mem_sent_of_recv {c c' : Chan α} {a : α} (h : c.recv = some (a, c')) : a ∈ c.sent := by
  have hmem : a ∈ c.buffered := by
    rw [(recv_eq_some h).1]
    exact List.mem_cons_self
  exact List.mem_of_mem_drop hmem

theorem recv_eq_none {c : Chan α} (h : c.recv = none) : c.buffered = [] := by
  unfold recv at h
  split_ifs at h with hlt
  exact List.drop_of_length_le (by omega)

/-- What is sent to an empty channel is received next. -/
theorem exists_recv_of_empty {c : Chan α} (hempty : c.recv = none) (hcap : 0 < c.cap) (a : α) :
    ∃ full rest, c.trySend a = some full ∧ full.recv = some (a, rest) ∧ rest.recv = none ∧
      rest.cap = c.cap := by
  have hall : c.received = c.sent.length := by
    unfold recv at hempty
    split_ifs at hempty with hlt
    exact le_antisymm c.received_le (not_lt.mp hlt)
  have hroom : c.buffered.length < c.cap := by simpa [recv_eq_none hempty] using hcap
  refine ⟨_, ⟨c.cap, c.sent ++ [a], c.sent.length + 1, by simp⟩, by rw [trySend, if_pos hroom], ?_,
    ?_, rfl⟩
  · simp [recv, hall]
  · simp [recv]

/-- From `c` to `c'` items were sent and none was received. -/
structure Grown (c c' : Chan α) : Prop where
  received : c'.received = c.received
  sent : c.sent <+: c'.sent

namespace Grown

variable {c c' c'' : Chan α}

theorem refl (c : Chan α) : Grown c c := ⟨rfl, List.prefix_rfl⟩

theorem trans (h : Grown c c') (h' : Grown c' c'') : Grown c c'' :=
  ⟨h'.received.trans h.received, h.sent.trans h'.sent⟩

theorem trySend {a : α} (h : c.trySend a = some c') : Grown c c' := by
  unfold Chan.trySend at h
  split_ifs at h
  cases h
  exact ⟨rfl, List.prefix_append _ _⟩

/-- What was received stays the same. -/
theorem take_received (h : Grown c c') :
    c'.sent.take c'.received = c.sent.take c.received := by
  obtain ⟨more, hmore⟩ := h.sent
  rw [h.received, ← hmore, List.take_append_of_le_length c.received_le]

end Grown

/-- A receive takes the item after those that were received. -/
theorem take_received_of_recv {c c' : Chan α} {a : α} (h : c.recv = some (a, c')) :
    c'.sent.take c'.received = c.sent.take c.received ++ [a] := by
  unfold recv at h
  split_ifs at h with hlt
  cases h
  exact List.take_succ_eq_append_getElem hlt

/-- A channel of this capacity that holds no more than that. -/
structure Holds (n : ℕ) (c : Chan α) : Prop where
  cap : c.cap = n
  length_le : c.buffered.length ≤ n

namespace Holds

variable {c c' : Chan α} {n : ℕ} {a : α}

theorem make (n : ℕ) : Holds n (make n : Chan α) := ⟨rfl, by simp [Chan.make, buffered]⟩

theorem trySend (h : Holds n c) (hsend : c.trySend a = some c') : Holds n c' := by
  obtain ⟨hroom, hbuf, hcap⟩ := trySend_eq_some hsend
  refine ⟨hcap.trans h.cap, ?_⟩
  rw [h.cap] at hroom
  simpa [hbuf] using hroom

theorem recv (h : Holds n c) (hrecv : c.recv = some (a, c')) : Holds n c' := by
  obtain ⟨hbuf, -, hcap⟩ := recv_eq_some hrecv
  have hle := h.length_le
  rw [hbuf, List.length_cons] at hle
  exact ⟨hcap.trans h.cap, by omega⟩

theorem sent_length_le (h : Holds n c) : c.sent.length ≤ c.received + n := by
  have hle := h.length_le
  rw [buffered, List.length_drop] at hle
  omega

end Holds

/-- From `c₀` to `c` there were `turns` turns to receive an item. A turn is lost only
when the channel is empty. -/
structure Serviced (c₀ : Chan α) (turns : ℕ) (c : Chan α) : Prop where
  sent_le : c₀.sent.length ≤ c.sent.length
  least : min c₀.sent.length (c₀.received + turns) ≤ c.received
  most : c.received ≤ c₀.received + turns

namespace Serviced

variable {c₀ c c' : Chan α} {m n : ℕ} {a : α}

theorem refl (c : Chan α) : Serviced c 0 c := ⟨le_rfl, min_le_right _ _, le_rfl⟩

theorem grown (h : Serviced c₀ n c) (hgrown : c.Grown c') : Serviced c₀ n c' := by
  obtain ⟨hsent, hleast, hmost⟩ := h
  exact ⟨hsent.trans hgrown.sent.length_le, by rwa [hgrown.received], by rwa [hgrown.received]⟩

theorem recv (h : Serviced c₀ n c) (hrecv : c.recv = some (a, c')) :
    Serviced c₀ (n + 1) c' := by
  obtain ⟨hsent, hleast, hmost⟩ := h
  unfold Chan.recv at hrecv
  split_ifs at hrecv
  cases hrecv
  exact ⟨hsent, by dsimp only; omega, by dsimp only; omega⟩

/-- Who finds the channel empty may leave all further turns. -/
theorem empty (h : Serviced c₀ n c) (hrecv : c.recv = none) (hle : n ≤ m) :
    Serviced c₀ m c := by
  obtain ⟨hsent, hleast, hmost⟩ := h
  unfold Chan.recv at hrecv
  split_ifs at hrecv with hlt
  exact ⟨hsent, by omega, by omega⟩

end Serviced

/-- Two channels with the same room whose items are related one by one. -/
structure Rel (R : α → α → Prop) (c c' : Chan α) : Prop where
  cap : c'.cap = c.cap
  received : c'.received = c.received
  sent : List.Forall₂ R c.sent c'.sent

namespace Rel

variable {R : α → α → Prop} {c c' : Chan α}

theorem trySend (h : Rel R c c') {a b : α} (hab : R a b) :
    Option.Rel (Rel R) (c.trySend a) (c'.trySend b) := by
  have hroom : c'.buffered.length < c'.cap ↔ c.buffered.length < c.cap := by
    simp only [buffered, List.length_drop, h.cap, h.received, h.sent.length_eq]
  unfold Chan.trySend
  by_cases hlt : c.buffered.length < c.cap
  · rw [if_pos hlt, if_pos (hroom.mpr hlt)]
    exact .some ⟨h.cap, h.received, List.rel_append h.sent (.cons hab .nil)⟩
  · rw [if_neg hlt, if_neg (mt hroom.mp hlt)]
    exact .none

theorem recv (h : Rel R c c') :
    Option.Rel (fun p q => R p.1 q.1 ∧ Rel R p.2 q.2) c.recv c'.recv := by
  have hmore : c'.received < c'.sent.length ↔ c.received < c.sent.length := by
    rw [h.received, h.sent.length_eq]
  unfold Chan.recv
  by_cases hlt : c.received < c.sent.length
  · rw [dif_pos hlt, dif_pos (hmore.mpr hlt)]
    refine .some ⟨?_, h.cap, congrArg (· + 1) h.received, h.sent⟩
    simp only [h.received]
    exact h.sent.get hlt (h.sent.length_eq ▸ hlt)
  · rw [dif_neg hlt, dif_neg (mt hmore.mp hlt)]
    exact .none

end Rel

end Chan

end SpatialServer
