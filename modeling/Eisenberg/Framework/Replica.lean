import Mathlib.Data.Set.Insert
import Mathlib.Order.MinMax
import Mathlib.Tactic.Common

/-!
# A replica of a versioned value

A master keeps a value under a version that every write increments. Whoever writes, the new value
and version go out on a FIFO feed; the replica's own writes and reads are answered besides, and an
answer may arrive at any time. The replica copies the value of whatever reaches it, and knows the
version its last answer carried.
-/

namespace Framework

universe u

/-- An answer on its way to the replica. -/
inductive Reply (ν : Type u) where
  | written (value : ν) (version : Int)
  | read (version : Int)

structure Replica (ν : Type u) where
  value : ν
  version : Int
  feed : List (ν × Int)
  replies : Set (Reply ν)
  copy : ν
  known : Int
  /-- The version the copy came with. -/
  last : Int
  /-- The highest version a copy came with. -/
  applied : Int
  /-- The version the last answer carried. -/
  answered : Int
  /-- The highest version an answer carried. -/
  replied : Int
  /-- The last write was not the replica's own. -/
  foreign : Bool

namespace Replica

variable {ν : Type u}

/-- The answer `r` is taken from those on their way; an equal one may be left. -/
def Taken (r : Reply ν) (before after : Set (Reply ν)) : Prop :=
  r ∈ before ∧ after ⊆ before ∧ ∀ x ∈ before, x = r ∨ x ∈ after

/-- The master takes a new value. -/
def write (s : Replica ν) (v : ν) (replies : Set (Reply ν)) (foreign : Bool) : Replica ν :=
  { s with
    value := v
    version := s.version + 1
    feed := s.feed ++ [(v, s.version + 1)]
    replies := replies
    foreign := foreign }

inductive Step (s : Replica ν) : Replica ν → Prop
  | idle : Step s s
  | foreignWrite (v : ν) : Step s (s.write v s.replies true)
  | ownWrite (v : ν) :
      Step s (s.write v (insert (.written v (s.version + 1)) s.replies) false)
  | read : Step s { s with replies := insert (.read s.version) s.replies }
  | writeAnswered (v : ν) (n : Int) (replies : Set (Reply ν))
      (hreplies : Taken (.written v n) s.replies replies) :
      Step s { s with copy := v, known := n, replies, last := n, applied := max s.applied n,
                      answered := n, replied := max s.replied n }
  | readAnswered (n : Int) (replies : Set (Reply ν))
      (hreplies : Taken (.read n) s.replies replies) :
      Step s { s with known := n, replies, answered := n, replied := max s.replied n }
  | fed (v : ν) (n : Int) (rest : List (ν × Int)) (hfeed : s.feed = (v, n) :: rest) :
      Step s { s with copy := v, feed := rest, last := n, applied := max s.applied n }

/-- The value may be that of version `n`: it is the master's if `n` is the present version. -/
def Dated (s : Replica ν) (v : ν) (n : Int) : Prop :=
  n ≤ s.version ∧ (n = s.version → v = s.value)

structure Inv (s : Replica ν) : Prop where
  written : ∀ v n, .written v n ∈ s.replies → s.Dated v n
  read : ∀ n, .read n ∈ s.replies → n ≤ s.version
  feed : ∀ entry ∈ s.feed, s.Dated entry.1 entry.2
  /-- The present version is the last the feed has, or has reached the replica. -/
  owed : match s.feed.getLast? with
    | some entry => entry.2 = s.version
    | none => s.version ≤ s.applied
  copy : s.Dated s.copy s.last
  applied : s.applied ≤ s.version
  known : s.known = s.answered
  replied : s.answered ≤ s.replied ∧ s.replied ≤ s.version
  own : s.foreign = false → s.replied = s.version ∨ ∃ v, .written v s.version ∈ s.replies

variable {s t : Replica ν}

theorem Dated.write {w : ν} {n : Int} (h : s.Dated w n) (v : ν) (replies : Set (Reply ν))
    (foreign : Bool) : (s.write v replies foreign).Dated w n := by
  obtain ⟨hle, -⟩ := h
  constructor
  · show n ≤ s.version + 1
    omega
  · intro hn
    have hversion : n = s.version + 1 := hn
    omega

/-- A write, whoever makes it, when the answers on their way are the old ones and perhaps its
own. -/
theorem Inv.write (h : s.Inv) (v : ν) {replies : Set (Reply ν)} {foreign : Bool}
    (hreplies : ∀ r ∈ replies, r = .written v (s.version + 1) ∨ r ∈ s.replies)
    (hown : foreign = false → .written v (s.version + 1) ∈ replies) :
    (s.write v replies foreign).Inv where
  written w n hmem := by
    rcases hreplies _ hmem with heq | hold
    · cases heq
      exact ⟨le_rfl, fun _ => rfl⟩
    · exact (h.written w n hold).write v replies foreign
  read n hmem := by
    have hle := h.read n ((hreplies _ hmem).resolve_left nofun)
    show n ≤ s.version + 1
    omega
  feed entry hentry := by
    rcases List.mem_append.mp hentry with hold | hnew
    · exact (h.feed entry hold).write v replies foreign
    · rw [List.mem_singleton] at hnew
      subst hnew
      exact ⟨le_rfl, fun _ => rfl⟩
  owed := by
    have hlast : (s.write v replies foreign).feed.getLast? = some (v, s.version + 1) :=
      List.getLast?_concat
    rw [hlast]
    rfl
  copy := h.copy.write v replies foreign
  applied := by
    have hle := h.applied
    show s.applied ≤ s.version + 1
    omega
  known := h.known
  replied := by
    have hle := h.replied.2
    refine ⟨h.replied.1, ?_⟩
    show s.replied ≤ s.version + 1
    omega
  own hforeign := Or.inr ⟨v, hown hforeign⟩

theorem Inv.readSent (h : s.Inv) :
    Inv { s with replies := insert (.read s.version) s.replies } where
  written v n hmem := h.written v n ((Set.mem_insert_iff.mp hmem).resolve_left nofun)
  read n hmem := by
    rcases Set.mem_insert_iff.mp hmem with heq | hold
    · cases heq
      exact le_rfl
    · exact h.read n hold
  feed := h.feed
  owed := h.owed
  copy := h.copy
  applied := h.applied
  known := h.known
  replied := h.replied
  own hforeign := (h.own hforeign).imp_right fun ⟨v, hv⟩ => ⟨v, Set.mem_insert_of_mem _ hv⟩

theorem max_eq_version {a n version : Int} (ha : a = version) (hn : n ≤ version) :
    max a n = version := by
  omega

theorem Inv.writeAnswered (h : s.Inv) {v : ν} {n : Int} {replies : Set (Reply ν)}
    (hreplies : Taken (.written v n) s.replies replies) :
    Inv { s with copy := v, known := n, replies, last := n, applied := max s.applied n,
                 answered := n, replied := max s.replied n } := by
  obtain ⟨hmem, hsub, hrest⟩ := hreplies
  have hdated := h.written v n hmem
  exact {
    written := fun w m hm => h.written w m (hsub hm)
    read := fun m hm => h.read m (hsub hm)
    feed := h.feed
    owed := by
      have howed := h.owed
      cases hlast : s.feed.getLast? with
      | some entry =>
        rw [hlast] at howed
        exact howed
      | none =>
        rw [hlast] at howed
        exact le_max_of_le_left howed
    copy := hdated
    applied := max_le h.applied hdated.1
    known := rfl
    replied := ⟨le_max_right _ _, max_le h.replied.2 hdated.1⟩
    own := by
      intro hforeign
      rcases h.own hforeign with hreplied | ⟨w, hw⟩
      · exact Or.inl (max_eq_version hreplied hdated.1)
      · rcases hrest _ hw with heq | hleft
        · cases heq
          exact Or.inl (max_eq_right h.replied.2)
        · exact Or.inr ⟨w, hleft⟩ }

theorem Inv.readAnswered (h : s.Inv) {n : Int} {replies : Set (Reply ν)}
    (hreplies : Taken (.read n) s.replies replies) :
    Inv { s with known := n, replies, answered := n, replied := max s.replied n } := by
  obtain ⟨hmem, hsub, hrest⟩ := hreplies
  have hle := h.read n hmem
  exact {
    written := fun w m hm => h.written w m (hsub hm)
    read := fun m hm => h.read m (hsub hm)
    feed := h.feed
    owed := h.owed
    copy := h.copy
    applied := h.applied
    known := rfl
    replied := ⟨le_max_right _ _, max_le h.replied.2 hle⟩
    own := by
      intro hforeign
      rcases h.own hforeign with hreplied | ⟨w, hw⟩
      · exact Or.inl (max_eq_version hreplied hle)
      · exact Or.inr ⟨w, (hrest _ hw).resolve_left nofun⟩ }

theorem Inv.fed (h : s.Inv) {v : ν} {n : Int} {rest : List (ν × Int)}
    (hs : s.feed = (v, n) :: rest) :
    Inv { s with copy := v, feed := rest, last := n, applied := max s.applied n } := by
  have hdated : s.Dated v n := h.feed (v, n) (hs ▸ List.mem_cons_self)
  exact {
    written := h.written
    read := h.read
    feed := fun entry hentry => h.feed entry (hs ▸ List.mem_cons_of_mem _ hentry)
    owed := by
      have howed := h.owed
      rw [hs, List.getLast?_cons] at howed
      cases hlast : rest.getLast? with
      | some entry =>
        rw [hlast] at howed
        exact howed
      | none =>
        rw [hlast] at howed
        exact le_max_of_le_right (le_of_eq (Eq.symm howed))
    copy := hdated
    applied := max_le h.applied hdated.1
    known := h.known
    replied := h.replied
    own := h.own }

theorem Inv.step (h : s.Inv) (hstep : s.Step t) : t.Inv := by
  cases hstep with
  | idle => exact h
  | foreignWrite v => exact h.write v (fun _ hr => Or.inr hr) nofun
  | ownWrite v => exact h.write v (fun _ hr => hr) (fun _ => Set.mem_insert _ _)
  | read => exact h.readSent
  | writeAnswered v n replies hreplies => exact h.writeAnswered hreplies
  | readAnswered n replies hreplies => exact h.readAnswered hreplies
  | fed v n rest hfeed => exact h.fed hfeed

/-- With nothing on its way, the replica has the master's value if its copy is the newest that
reached it, and knows the master's version if it wrote that and its last answer is the newest. -/
theorem Inv.agreement (h : s.Inv) (hfeed : s.feed = []) (hreplies : s.replies = ∅) :
    (s.last = s.applied → s.copy = s.value) ∧
      (s.foreign = false → s.answered = s.replied → s.known = s.version) := by
  have howed := h.owed
  rw [hfeed] at howed
  have happlied : s.applied = s.version := le_antisymm h.applied howed
  constructor
  · intro hlast
    exact h.copy.2 (hlast.trans happlied)
  · intro hforeign hanswered
    rcases h.own hforeign with hreplied | ⟨v, hv⟩
    · exact h.known.trans (hanswered.trans hreplied)
    · rw [hreplies] at hv
      exact hv.elim

end Replica

end Framework
