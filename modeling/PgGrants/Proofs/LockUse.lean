/-
A lock in use by any number of actors.

The lock itself keeps three counters and a list of those who wait. Beside it stands what happened:
which calls were made and have not returned, and what was obtained and not given back. An actor does
one thing at a time and gives back only what it has; apart from that its critical sections come in
any order, and so do those of the waiters that were woken. One invariant says that the counters
count what happened, that readers and a writer are never there together, and that nobody sleeps who
could go on.
-/
import Mathlib.Data.Finset.Card
import Mathlib.Data.List.Count
import Mathlib.Data.List.Perm.Basic
import Mathlib.Logic.Relation
import PgGrants.Lock.Schedule

set_option autoImplicit false

namespace PgGrants

/-! ## 1. Calls -/

/-- The call in which a waiter is. -/
def Waiter.call (w : Waiter) : String × Access := (w.actor, w.access)

namespace Lock

/-- The actors of the calls for this access, each as often as it has made one. -/
def actors (access : Access) (calls : List (String × Access)) : List String :=
  (calls.filter (·.2 = access)).map Prod.fst

theorem mem_actors {access : Access} {calls : List (String × Access)} {actor : String} :
    actor ∈ actors access calls ↔ (actor, access) ∈ calls := by
  simp [actors]

@[simp] theorem actors_nil (access : Access) : actors access [] = [] := rfl

@[simp] theorem actors_cons_self (actor : String) (access : Access)
    (calls : List (String × Access)) :
    actors access ((actor, access) :: calls) = actor :: actors access calls := by
  simp [actors]

@[simp] theorem actors_read_cons_write (actor : String) (calls : List (String × Access)) :
    actors .read ((actor, .write) :: calls) = actors .read calls := by
  simp [actors]

@[simp] theorem actors_write_cons_read (actor : String) (calls : List (String × Access)) :
    actors .write ((actor, .read) :: calls) = actors .write calls := by
  simp [actors]

/-- A call that is taken out of a list could as well have stood at its beginning. -/
theorem length_actors_erase {call : String × Access} {calls : List (String × Access)}
    (h : call ∈ calls) (access : Access) :
    (actors access calls).length = (actors access (call :: calls.erase call)).length :=
  (((List.perm_cons_erase h).filter _).map _).length_eq

/-! ## 2. The lock in use -/

/-- A lock, and what its actors have done with it. -/
structure Usage where
  lock : Lock
  /-- The calls for the lock that have not returned. -/
  asking : List (String × Access)
  /-- What calls have obtained and nobody has given back. -/
  held : List (String × Access)

namespace Usage

/-- Nobody has used the lock. -/
def fresh : Usage := ⟨.free, [], []⟩

/-- The actor is in no call. -/
def Idle (u : Usage) (actor : String) : Prop := ∀ access, (actor, access) ∉ u.asking

/-- A critical section of a call leaves this lock. The call returns unless its actor waits. -/
def leave (u : Usage) (actor : String) (access : Access) (lock : Lock) : Usage :=
  if lock.waits actor then { u with lock := lock }
  else ⟨lock, u.asking.erase (actor, access), (actor, access) :: u.held⟩

/-- An actor asks for the lock. -/
def ask (u : Usage) (actor : String) (access : Access) : Usage :=
  { u with asking := (actor, access) :: u.asking }.leave actor access
    (u.lock.acquire actor access)

/-- A waiter that was woken looks again. -/
def look (u : Usage) (w : Waiter) : Usage := u.leave w.actor w.access (u.lock.recheck w)

/-- An actor gives the lock back. -/
def giveBack (u : Usage) (actor : String) (access : Access) : Usage :=
  ⟨u.lock.release access, u.asking, u.held.erase (actor, access)⟩

/-- One critical section. Only an actor that is in no call asks or gives back, and it gives back
only what it has; of those who were woken any may be the next. -/
inductive Step (u : Usage) : Usage → Prop where
  | ask {actor : String} (access : Access) (hidle : u.Idle actor) : Step u (u.ask actor access)
  | look {w : Waiter} (hw : w ∈ u.lock.waiters) (hawake : w.awake = true) : Step u (u.look w)
  | giveBack {actor : String} {access : Access} (hheld : (actor, access) ∈ u.held)
      (hidle : u.Idle actor) : Step u (u.giveBack actor access)

/-- The lock can come to be used in this way. -/
def Reachable (u : Usage) : Prop := Relation.ReflTransGen Step fresh u

/-- Nobody who is in a call can go on: all who wait are asleep. -/
def Still (u : Usage) : Prop := ∀ w ∈ u.lock.waiters, w.awake = false

/-! ## 3. What fits together

The counters are the lengths of lists of calls, and a sleeping waiter is one that has to wait. Every
critical section preserves this, so it holds in every state that is reached. -/

/-- The lock fits what happened. -/
structure Fits (u : Usage) : Prop where
  /-- Whoever is in a call waits, and nobody else. -/
  waiters : (u.lock.waiters.map Waiter.call).Perm u.asking
  /-- No actor is in two calls. -/
  once : (u.asking.map Prod.fst).Nodup
  waiting : u.lock.writersWaiting = (actors .write u.asking).length
  readers : u.lock.readers = (actors .read u.held).length
  writer : u.lock.writer.toNat = (actors .write u.held).length
  /-- No reader is there together with a writer. -/
  alone : u.lock.writer = true → u.lock.readers = 0
  /-- Whoever sleeps has to wait. -/
  asleep : ∀ w ∈ u.lock.waiters, w.awake = false → u.lock.mustWait w.access = true

theorem fits_fresh : fresh.Fits where
  waiters := List.Perm.nil
  once := List.nodup_nil
  waiting := rfl
  readers := rfl
  writer := rfl
  alone := by decide
  asleep := by
    intro w hw
    cases hw

end Usage

/-! ## 4. Who has to wait -/

@[simp] theorem mustWait_waiters (lock : Lock) (waiters : List Waiter) (access : Access) :
    { lock with waiters := waiters }.mustWait access = lock.mustWait access := by
  cases access <;> rfl

@[simp] theorem waiters_announce (lock : Lock) (access : Access) :
    (lock.announce access).waiters = lock.waiters := by
  cases access <;> rfl

@[simp] theorem waiters_obtain (lock : Lock) (access : Access) :
    (lock.obtain access).waiters = lock.waiters := by
  cases access <;> rfl

/-- Nobody is let in because another one asks. -/
theorem mustWait_announce {lock : Lock} {other : Access} (access : Access)
    (h : lock.mustWait other = true) : (lock.announce access).mustWait other = true := by
  cases access <;> cases other <;> simp_all [mustWait, announce]

/-- Nobody is let in because another one gets the lock. -/
theorem mustWait_obtain {lock : Lock} {other : Access} (access : Access)
    (hreaders : 0 ≤ lock.readers) (h : lock.mustWait other = true) :
    (lock.obtain access).mustWait other = true := by
  have hmore : lock.readers + 1 ≠ 0 := by omega
  cases access <;> cases other <;> simp_all [mustWait, obtain]

/-- When the lock is given back and nobody is woken, nobody is let in either. -/
theorem asleep_release {lock : Lock} (access : Access)
    (h : ∀ w ∈ lock.waiters, w.awake = false → lock.mustWait w.access = true) :
    ∀ w ∈ (lock.release access).waiters, w.awake = false →
      (lock.release access).mustWait w.access = true := by
  -- after `wakeAll` nobody is asleep
  have hwoken : ∀ left : Lock, ∀ w ∈ left.wakeAll.waiters, w.awake = true := by
    intro left w hw
    obtain ⟨sleeper, -, rfl⟩ := List.mem_map.1 hw
    rfl
  intro w hw hasleep
  cases access with
  | read =>
    unfold release at hw ⊢
    dsimp only at hw ⊢
    split
    · rename_i hnone
      rw [if_pos hnone] at hw
      rw [hwoken _ w hw] at hasleep
      cases hasleep
    · rename_i hsome
      rw [if_neg hsome] at hw
      have hmust := h w hw hasleep
      cases haccess : w.access with
      | read =>
        rw [haccess] at hmust
        exact hmust
      | write => simpa [mustWait] using .inr hsome
  | write =>
    rw [hwoken _ w hw] at hasleep
    cases hasleep

/-! ## 5. What one critical section preserves -/

theorem calls_release (lock : Lock) (access : Access) :
    (lock.release access).waiters.map Waiter.call = lock.waiters.map Waiter.call := by
  -- waking changes who is awake, and no call
  have hwoken : ∀ left : Lock, left.wakeAll.waiters.map Waiter.call =
      left.waiters.map Waiter.call := by
    intro left
    simp [wakeAll, Waiter.call, Function.comp_def]
  cases access with
  | read =>
    unfold release
    dsimp only
    split
    · exact hwoken _
    · rfl
  | write => exact hwoken _

theorem writersWaiting_release (lock : Lock) (access : Access) :
    (lock.release access).writersWaiting = lock.writersWaiting := by
  cases access with
  | read =>
    unfold release
    dsimp only
    split <;> rfl
  | write => rfl

theorem readers_release_read (lock : Lock) : (lock.release .read).readers = lock.readers - 1 := by
  unfold release
  dsimp only
  split <;> rfl

theorem writer_release_read (lock : Lock) : (lock.release .read).writer = lock.writer := by
  unfold release
  dsimp only
  split <;> rfl

theorem waits_iff {lock : Lock} {actor : String} :
    lock.waits actor = true ↔ ∃ w ∈ lock.waiters, w.actor = actor := by
  simp [waits]

theorem recheck_of_awake {lock : Lock} {w : Waiter} (hw : w ∈ lock.waiters)
    (hawake : w.awake = true) :
    lock.recheck w =
      if lock.mustWait w.access = true then
        { lock with waiters := lock.waiters.replace w { w with awake := false } }
      else { lock with waiters := lock.waiters.erase w }.obtain w.access := by
  have hlooks : (lock.waiters.contains w && w.awake) = true := by
    rw [hawake, Bool.and_true]
    exact List.contains_iff_mem.2 hw
  rw [recheck, if_pos hlooks]

/-- What replaces an element of a list could as well have been put at its beginning. -/
theorem replace_perm {w : Waiter} {waiters : List Waiter} (hw : w ∈ waiters) (w' : Waiter) :
    (waiters.replace w w').Perm (w' :: waiters.erase w) := by
  obtain ⟨before, after, hnew, rfl, herase⟩ := List.exists_erase_eq hw
  rw [herase, List.replace_append_right hnew, List.replace_cons_self]
  exact List.perm_middle

namespace Usage

theorem mem_asking_of_mem_waiters {u : Usage} (hu : u.Fits) {w : Waiter} (hw : w ∈ u.lock.waiters) :
    w.call ∈ u.asking :=
  hu.waiters.mem_iff.1 (List.mem_map_of_mem hw)

/-- A waiter that gets the lock waits no more, since it waited in one call only. -/
theorem Fits.not_waits_erase {u : Usage} (hu : u.Fits) {w : Waiter} (hw : w ∈ u.lock.waiters)
    (access : Access) :
    ({ u.lock with waiters := u.lock.waiters.erase w }.obtain access).waits w.actor = false := by
  rw [Bool.eq_false_iff]
  intro hwaits
  obtain ⟨other, hother, hsame⟩ := waits_iff.1 hwaits
  rw [waiters_obtain] at hother
  -- an actor is in one call only, so without it the actor waits for nothing
  have hcalls : ((w :: u.lock.waiters.erase w).map Waiter.actor).Nodup := by
    have hnames := hu.waiters.map Prod.fst
    rw [List.map_map] at hnames
    exact ((List.perm_cons_erase hw).symm.map _).nodup_iff.2 (hnames.nodup_iff.2 hu.once)
  rw [List.map_cons, List.nodup_cons] at hcalls
  exact hcalls.1 (List.mem_map.2 ⟨other, hother, hsame⟩)

/-- A waiter that was woken gets the lock, or sleeps again. -/
theorem look_cases {u : Usage} (hu : u.Fits) {w : Waiter} (hw : w ∈ u.lock.waiters)
    (hawake : w.awake = true) :
    (u.lock.mustWait w.access = true ∧
      u.look w = { u with lock := { u.lock with
        waiters := u.lock.waiters.replace w { w with awake := false } } }) ∨
    (u.lock.mustWait w.access = false ∧
      u.look w = ⟨{ u.lock with waiters := u.lock.waiters.erase w }.obtain w.access,
        u.asking.erase w.call, w.call :: u.held⟩) := by
  unfold look
  rw [recheck_of_awake hw hawake]
  by_cases hmust : u.lock.mustWait w.access = true
  · refine .inl ⟨hmust, ?_⟩
    have hwaits : { u.lock with
        waiters := u.lock.waiters.replace w { w with awake := false } }.waits w.actor = true :=
      waits_iff.2 ⟨{ w with awake := false },
        (replace_perm hw _).mem_iff.2 List.mem_cons_self, rfl⟩
    rw [if_pos hmust, leave, if_pos hwaits]
  · rw [if_neg hmust]
    rw [Bool.not_eq_true] at hmust
    refine .inr ⟨hmust, ?_⟩
    rw [leave, if_neg (by rw [hu.not_waits_erase hw]; decide)]
    rfl

/-- After a waiter has looked again the lock fits what happened. -/
theorem Fits.look {u : Usage} (hu : u.Fits) {w : Waiter} (hw : w ∈ u.lock.waiters)
    (hawake : w.awake = true) : (u.look w).Fits := by
  rcases look_cases hu hw hawake with ⟨hmust, hlook⟩ | ⟨hmust, hlook⟩
  · rw [hlook]
    -- the waiter goes back to sleep, which it may since it has to wait
    have hperm := replace_perm hw { w with awake := false }
    have hcalls := hperm.map Waiter.call
    refine { hu with waiters := ?_, asleep := ?_ }
    · exact hcalls.trans (((List.perm_cons_erase hw).map Waiter.call).symm.trans hu.waiters)
    · intro other hother hasleep
      rw [mustWait_waiters]
      rcases List.mem_cons.1 (hperm.mem_iff.1 hother) with rfl | hother
      · exact hmust
      · exact hu.asleep other (List.mem_of_mem_erase hother) hasleep
  · rw [hlook]
    -- the waiter leaves the list and its call turns into something held
    have hasking := mem_asking_of_mem_waiters hu hw
    have hcount := length_actors_erase hasking .write
    have hreaders : 0 ≤ u.lock.readers := by
      rw [hu.readers]
      exact Int.natCast_nonneg _
    have hrest : ((u.lock.waiters.erase w).map Waiter.call).Perm (u.asking.erase w.call) := by
      have hcalls := (List.perm_cons_erase hw).map Waiter.call
      exact (hcalls.symm.trans (hu.waiters.trans (List.perm_cons_erase hasking))).cons_inv
    have hasleep : ∀ other ∈ u.lock.waiters.erase w, other.awake = false →
        ({ u.lock with waiters := u.lock.waiters.erase w }.obtain w.access).mustWait
          other.access = true := by
      intro other hother hasleep
      refine mustWait_obtain w.access hreaders ?_
      rw [mustWait_waiters]
      exact hu.asleep other (List.mem_of_mem_erase hother) hasleep
    have honce : ((u.asking.erase w.call).map Prod.fst).Nodup :=
      hu.once.sublist (List.erase_sublist.map _)
    obtain ⟨actor, access, awake⟩ := w
    have hwriter := hu.writer
    -- a reader finds no writer, and a writer finds neither
    cases access with
    | read =>
      obtain ⟨hnone, -⟩ : u.lock.writer = false ∧ u.lock.writersWaiting = 0 := by
        simpa [mustWait] using hmust
      exact {
        waiters := hrest
        once := honce
        waiting := by simpa [obtain, Waiter.call, hu.waiting] using hcount
        readers := by simp [obtain, Waiter.call, hu.readers]
        writer := by simpa [obtain, Waiter.call] using hwriter
        alone := by simp [obtain, hnone]
        asleep := hasleep }
    | write =>
      obtain ⟨hnone, hempty⟩ : u.lock.writer = false ∧ u.lock.readers = 0 := by
        simpa [mustWait] using hmust
      rw [hnone] at hwriter
      exact {
        waiters := hrest
        once := honce
        waiting := by
          have hwaiting := hu.waiting
          simp only [obtain, Waiter.call, actors_cons_self, List.length_cons] at hcount ⊢
          omega
        readers := by simp [obtain, Waiter.call, hu.readers]
        writer := by simpa [obtain, Waiter.call] using hwriter.symm
        alone := fun _ => hempty
        asleep := hasleep }

/-- A call begins: its actor waits, and will look at once. -/
def enter (u : Usage) (actor : String) (access : Access) : Usage where
  lock := { u.lock.announce access with waiters := u.lock.waiters ++ [⟨actor, access, true⟩] }
  asking := (actor, access) :: u.asking
  held := u.held

/-- To ask for the lock is to begin to wait and to look at once. -/
theorem ask_eq_look {u : Usage} (hu : u.Fits) {actor : String} (hidle : u.Idle actor)
    (access : Access) :
    u.ask actor access = (u.enter actor access).look ⟨actor, access, true⟩ := by
  have hnew : (⟨actor, access, true⟩ : Waiter) ∉ u.lock.waiters :=
    fun hw => hidle access (mem_asking_of_mem_waiters hu hw)
  have hacquire : u.lock.acquire actor access =
      (u.enter actor access).lock.recheck ⟨actor, access, true⟩ := by
    have hmem : (⟨actor, access, true⟩ : Waiter) ∈ (u.enter actor access).lock.waiters :=
      List.mem_append_right _ List.mem_cons_self
    have hsame : (u.enter actor access).lock.mustWait access =
        (u.lock.announce access).mustWait access := mustWait_waiters _ _ _
    rw [recheck_of_awake hmem rfl, hsame]
    unfold acquire enter
    dsimp only
    rw [waiters_announce, List.replace_append_right hnew, List.erase_append_right _ hnew,
      List.replace_cons_self, List.erase_cons_head, List.append_nil, ← waiters_announce]
  unfold ask look
  rw [hacquire]
  rfl

/-- After an actor has entered a call the lock fits what happened. -/
theorem Fits.enter {u : Usage} (hu : u.Fits) {actor : String} (hidle : u.Idle actor)
    (access : Access) : (u.enter actor access).Fits where
  waiters := by
    have hcalls : (u.enter actor access).lock.waiters.map Waiter.call =
        u.lock.waiters.map Waiter.call ++ [(actor, access)] := List.map_append
    rw [hcalls]
    exact (List.perm_append_singleton _ _).trans (hu.waiters.cons _)
  -- the actor was idle, so the new call is its only one
  once := by
    refine List.nodup_cons.2 ⟨?_, hu.once⟩
    intro hactor
    obtain ⟨⟨_, other⟩, hother, rfl⟩ := List.mem_map.1 hactor
    exact hidle other hother
  waiting := by cases access <;> simp [Usage.enter, announce, hu.waiting]
  readers := by cases access <;> exact hu.readers
  writer := by cases access <;> exact hu.writer
  alone := by cases access <;> exact hu.alone
  asleep := by
    intro w hw hasleep
    rcases List.mem_append.1 hw with hw | hw
    · exact mustWait_announce access (hu.asleep w hw hasleep)
    -- the new waiter is awake
    · rw [List.mem_singleton.1 hw] at hasleep
      cases hasleep

/-- After an actor has asked for the lock it fits what happened. -/
theorem Fits.ask {u : Usage} (hu : u.Fits) {actor : String} (hidle : u.Idle actor)
    (access : Access) : (u.ask actor access).Fits := by
  rw [ask_eq_look hu hidle]
  exact (hu.enter hidle access).look (List.mem_append_right _ List.mem_cons_self) rfl

/-- After an actor has given the lock back it fits what happened. -/
theorem Fits.giveBack {u : Usage} (hu : u.Fits) {actor : String} {access : Access}
    (hheld : (actor, access) ∈ u.held) : (u.giveBack actor access).Fits := by
  have hcalls : (u.lock.release access).waiters.map Waiter.call =
      u.lock.waiters.map Waiter.call := calls_release u.lock access
  have hreading := length_actors_erase hheld .read
  have hwriting := length_actors_erase hheld .write
  have hreaders := hu.readers
  have hwriter := hu.writer
  have hasleep := asleep_release access hu.asleep
  -- what was given back had been counted
  cases access with
  | read =>
    simp only [actors_cons_self, actors_write_cons_read, List.length_cons] at hreading hwriting
    exact {
      waiters := hcalls ▸ hu.waiters
      once := hu.once
      waiting := by
        rw [Usage.giveBack, writersWaiting_release]
        exact hu.waiting
      readers := by
        rw [Usage.giveBack, readers_release_read]
        dsimp only
        omega
      writer := by
        rw [Usage.giveBack, writer_release_read]
        exact hwriter.trans hwriting
      alone := by
        rw [Usage.giveBack, writer_release_read]
        intro hwrites
        -- a reader could not have had the lock
        have halone := hu.alone hwrites
        omega
      asleep := hasleep }
  | write =>
    simp only [actors_cons_self, actors_read_cons_write, List.length_cons] at hreading hwriting
    have hone := Bool.toNat_le u.lock.writer
    exact {
      waiters := hcalls ▸ hu.waiters
      once := hu.once
      waiting := by
        rw [Usage.giveBack, writersWaiting_release]
        exact hu.waiting
      readers := by
        show u.lock.readers = _
        rw [hreaders, hreading]
        rfl
      writer := by
        show 0 = _
        dsimp only [Usage.giveBack]
        omega
      alone := fun hwrites => nomatch hwrites
      asleep := hasleep }

/-- Whatever is done next, the lock fits what happened. -/
theorem Fits.step {u v : Usage} (hu : u.Fits) (h : u.Step v) : v.Fits := by
  cases h with
  | ask access hidle => exact hu.ask hidle access
  | look hw hawake => exact hu.look hw hawake
  | giveBack hheld hidle => exact hu.giveBack hheld

/-- However the lock is used, it fits what happened. -/
theorem Reachable.fits {u : Usage} (h : u.Reachable) : u.Fits := by
  induction h with
  | refl => exact fits_fresh
  | tail _ hstep ih => exact ih.step hstep

/-! ## 6. Readers and writers exclude each other

The counters are read off the invariant. What it says of lists becomes a statement on sets of actors
where no actor is counted twice. -/

/-- The actors that have the lock in this way. -/
def holders (u : Usage) (access : Access) : Finset String := (actors access u.held).toFinset

/-- The actors that asked for the lock in this way and do not have it yet. -/
def blocked (u : Usage) (access : Access) : Finset String := (actors access u.asking).toFinset

/-- A writer is there exactly when one actor has the lock to write, and then there are no readers.
The readers are counted as often as they got the lock: when none has got it twice, their number is
that of the actors that read. The waiting writers are counted once each. -/
theorem counters_count_actors {u : Usage} (h : u.Reachable) :
    (u.lock.writer = true ↔ (u.holders .write).card = 1) ∧
      u.lock.readers = (actors .read u.held).length ∧
      ((actors .read u.held).Nodup → u.lock.readers = (u.holders .read).card) ∧
      ¬(u.lock.writer = true ∧ u.lock.readers ≠ 0) ∧
      u.lock.writersWaiting = (u.blocked .write).card := by
  have hu := h.fits
  -- there is at most one writer, so the list of writers repeats nobody
  have hwriters : (actors .write u.held).Nodup := by
    have hone := Bool.toNat_le u.lock.writer
    rw [hu.writer] at hone
    exact List.nodup_iff_count_le_one.2 fun actor => List.count_le_length.trans hone
  -- nobody is in two calls, so neither does the list of blocked writers
  have hblocked : (actors .write u.asking).Nodup :=
    hu.once.sublist (List.filter_sublist.map Prod.fst)
  refine ⟨?_, hu.readers, ?_, ?_, ?_⟩
  · rw [holders, List.toFinset_card_of_nodup hwriters, ← hu.writer]
    cases u.lock.writer <;> decide
  · intro hreaders
    rw [holders, List.toFinset_card_of_nodup hreaders, hu.readers]
  · rintro ⟨hwrites, hreads⟩
    exact hreads (hu.alone hwrites)
  · rw [blocked, List.toFinset_card_of_nodup hblocked, hu.waiting]

theorem idle_of_not_mem {u : Usage} {actor : String} (h : actor ∉ u.asking.map Prod.fst) :
    u.Idle actor :=
  fun _ hcall => h (List.mem_map.2 ⟨_, hcall, rfl⟩)

/-- An actor reads, another one waits to write, and a third waits to read after it. -/
def queue : Usage := ((fresh.ask "a" .read).ask "b" .write).ask "c" .read

theorem reachable_queue : queue.Reachable :=
  ((Relation.ReflTransGen.refl.tail (.ask .read (idle_of_not_mem (by decide)))).tail
    (.ask .write (idle_of_not_mem (by decide)))).tail (.ask .read (idle_of_not_mem (by decide)))

/-- In this queue there are one reader and one waiting writer. -/
theorem queue_counts_one_reader :
    queue.Reachable ∧ queue.lock.readers = 1 ∧ queue.lock.writersWaiting = 1 := by
  have hreading : (actors .read queue.held).Nodup := by decide
  obtain ⟨-, -, hreaders, -, hwaiting⟩ := counters_count_actors reachable_queue
  refine ⟨reachable_queue, ?_, ?_⟩
  · rw [hreaders hreading]
    decide
  · rw [hwaiting]
    decide

/-- An actor reads, and begins to read once more. -/
def rereading : Usage := (fresh.ask "a" .read).ask "a" .read

/-- The lock does not know its readers: one that reads twice counts twice. -/
theorem second_read_counts_again :
    rereading.Reachable ∧ rereading.lock.readers ≠ (rereading.holders .read).card := by
  refine ⟨?_, by decide⟩
  exact (Relation.ReflTransGen.refl.tail (.ask .read (idle_of_not_mem (by decide)))).tail
    (.ask .read (idle_of_not_mem (by decide)))

/-! ## 7. Nobody waits in vain

In a still state every waiter sleeps, and by the invariant whoever sleeps has to wait. What it waits
for is then in the counters, and so among the actors. -/

/-- While a writer waits, no call to read gets the lock by looking. -/
theorem count_held_look {u : Usage} (hu : u.Fits) {w : Waiter} (hw : w ∈ u.lock.waiters)
    (hawake : w.awake = true) {writer : String} (hwriter : (writer, .write) ∈ u.asking)
    (reader : String) : (u.look w).held.count (reader, .read) ≤ u.held.count (reader, .read) := by
  rcases look_cases hu hw hawake with ⟨-, hlook⟩ | ⟨hfree, hlook⟩
  · rw [hlook]
  · rw [hlook]
    obtain ⟨actor, access, awake⟩ := w
    cases access with
    -- a reader that obtains the lock has seen that no writer waits, and one does
    | read =>
      obtain ⟨-, hnone⟩ : u.lock.writer = false ∧ u.lock.writersWaiting = 0 := by
        simpa [mustWait] using hfree
      rw [hu.waiting, List.length_eq_zero_iff] at hnone
      rw [← mem_actors, hnone] at hwriter
      cases hwriter
    | write =>
      rw [List.count_cons_of_ne (by simp [Waiter.call])]

/-- While a writer waits, no call to read gets the lock. -/
theorem Fits.count_held_step {u v : Usage} (hu : u.Fits) (h : u.Step v) {writer : String}
    (hwriter : (writer, .write) ∈ u.asking) (reader : String) :
    v.held.count (reader, .read) ≤ u.held.count (reader, .read) := by
  cases h with
  | ask access hidle =>
    rw [ask_eq_look hu hidle]
    exact count_held_look (hu.enter hidle access) (List.mem_append_right _ List.mem_cons_self) rfl
      (List.mem_cons_of_mem _ hwriter) reader
  | look hw hawake => exact count_held_look hu hw hawake hwriter reader
  | giveBack hheld hidle => exact List.erase_sublist.count_le _

theorem exists_of_length_actors {access : Access} {calls : List (String × Access)}
    (h : (actors access calls).length ≠ 0) : ∃ actor, (actor, access) ∈ calls := by
  obtain ⟨actor, hactor⟩ := List.exists_mem_of_length_pos (Nat.pos_of_ne_zero h)
  exact ⟨actor, mem_actors.1 hactor⟩

theorem Fits.exists_writer {u : Usage} (hu : u.Fits) (h : u.lock.writer = true) :
    ∃ writer, (writer, .write) ∈ u.held := by
  refine exists_of_length_actors ?_
  rw [← hu.writer, h]
  decide

/-- Where all who wait are asleep, whoever asks has to wait. -/
theorem Fits.mustWait_of_still {u : Usage} (hu : u.Fits) (hstill : u.Still)
    {call : String × Access} (hcall : call ∈ u.asking) : u.lock.mustWait call.2 = true := by
  obtain ⟨w, hw, rfl⟩ := List.mem_map.1 (hu.waiters.mem_iff.2 hcall)
  exact hu.asleep w hw (hstill w hw)

/-- A writer that has to wait waits for somebody that has the lock. -/
theorem Fits.exists_held {u : Usage} (hu : u.Fits) (h : u.lock.mustWait .write = true) :
    ∃ holding, holding ∈ u.held := by
  have hwaits : u.lock.writer = true ∨ u.lock.readers ≠ 0 := by
    simpa [mustWait] using h
  rcases hwaits with hwrites | hreads
  · obtain ⟨other, hother⟩ := hu.exists_writer hwrites
    exact ⟨_, hother⟩
  · rw [hu.readers, Int.natCast_ne_zero] at hreads
    obtain ⟨other, hother⟩ := exists_of_length_actors hreads
    exact ⟨_, hother⟩

/-- A reader that has to wait waits for a writer that has the lock or waits for it. -/
theorem Fits.exists_writing {u : Usage} (hu : u.Fits) (h : u.lock.mustWait .read = true) :
    (∃ writer, (writer, .write) ∈ u.held) ∨ ∃ writer, (writer, .write) ∈ u.asking := by
  have hwaits : u.lock.writer = true ∨ u.lock.writersWaiting ≠ 0 := by
    simpa [mustWait] using h
  rcases hwaits with hwrites | hwaiting
  · exact .inl (hu.exists_writer hwrites)
  · rw [hu.waiting] at hwaiting
    exact .inr (exists_of_length_actors hwaiting)

/-- Where all who wait are asleep, nobody waits for a lock that nobody has. -/
theorem Fits.asking_eq_nil {u : Usage} (hu : u.Fits) (hstill : u.Still) (hnone : u.held = []) :
    u.asking = [] := by
  -- a waiting writer waits for somebody who holds the lock
  have hnowriter : ∀ writer, (writer, .write) ∉ u.asking := by
    intro writer hwriter
    obtain ⟨holding, hholding⟩ := hu.exists_held (hu.mustWait_of_still hstill hwriter)
    rw [hnone] at hholding
    cases hholding
  refine List.eq_nil_iff_forall_not_mem.2 ?_
  rintro ⟨actor, access⟩ hcall
  cases access with
  | write => exact hnowriter actor hcall
  -- a waiting reader waits for a writer, one that holds or one that waits
  | read =>
    rcases hu.exists_writing (hu.mustWait_of_still hstill hcall) with ⟨writer, hwriter⟩ |
      ⟨writer, hwriter⟩
    · rw [hnone] at hwriter
      cases hwriter
    · exact hnowriter writer hwriter

/-- Where all who wait are asleep, whoever waits to write waits for an actor that has the lock, and
whoever waits to read for one that writes or waits to write; so nobody waits for a lock that nobody
has. And at no time does a call to read get the lock before a writer that was already waiting. -/
theorem nobody_waits_in_vain {u : Usage} (h : u.Reachable) :
    (u.Still →
      (∀ writer, (writer, .write) ∈ u.asking → ∃ holding, holding ∈ u.held) ∧
      (∀ reader, (reader, .read) ∈ u.asking →
        (∃ writer, (writer, .write) ∈ u.held) ∨ ∃ writer, (writer, .write) ∈ u.asking) ∧
      (u.held = [] → u.asking = [])) ∧
    ∀ v, u.Step v → ∀ writer, (writer, .write) ∈ u.asking →
      ∀ reader, v.held.count (reader, .read) ≤ u.held.count (reader, .read) := by
  have hu := h.fits
  refine ⟨fun hstill => ⟨fun writer hwriter => ?_, fun reader hreader => ?_, ?_⟩, ?_⟩
  · exact hu.exists_held (hu.mustWait_of_still hstill hwriter)
  · exact hu.exists_writing (hu.mustWait_of_still hstill hreader)
  · exact hu.asking_eq_nil hstill
  · exact fun v hstep writer hwriter reader => hu.count_held_step hstep hwriter reader

/-- In the queue the writer waits for the reader. -/
theorem queue_waits_for_reader :
    queue.Reachable ∧ queue.Still ∧ ∃ holding, holding ∈ queue.held := by
  have hstill : queue.Still := by
    have hall : ∀ w ∈ queue.lock.waiters, w.awake = false := by decide
    exact hall
  have hwriter : ("b", .write) ∈ queue.asking := by decide
  exact ⟨reachable_queue, hstill, ((nobody_waits_in_vain reachable_queue).1 hstill).1 "b" hwriter⟩

/-! ## 8. Orders that are followed

The tested schedule lets every woken waiter look again before the next order. It is one of the many
ways in which the lock may be used. -/

@[simp] theorem lock_leave (u : Usage) (actor : String) (access : Access) (lock : Lock) :
    (u.leave actor access lock).lock = lock := by
  unfold leave
  split <;> rfl

/-- That everyone who was woken looks again is one way in which the lock can be used. -/
theorem exists_of_settle (u : Usage) :
    ∃ v, Relation.ReflTransGen Step u v ∧ v.lock = u.lock.settle := by
  have hall : ∀ (waiters : List Waiter) (u : Usage),
      ∃ v, Relation.ReflTransGen Step u v ∧ v.lock = waiters.foldl recheck u.lock := by
    intro waiters
    induction waiters with
    | nil => exact fun u => ⟨u, .refl, rfl⟩
    | cons w waiters ih =>
      intro u
      -- a waiter that sleeps, or is gone by now, takes no step
      by_cases hlooks : (u.lock.waiters.contains w && w.awake) = true
      · have hparts := Bool.and_eq_true_iff.1 hlooks
        obtain ⟨v, hsteps, hlock⟩ := ih (u.look w)
        refine ⟨v, .head (.look (List.contains_iff_mem.1 hparts.1) hparts.2) hsteps, ?_⟩
        rw [hlock, look, lock_leave, List.foldl_cons]
      · obtain ⟨v, hsteps, hlock⟩ := ih u
        refine ⟨v, hsteps, ?_⟩
        rw [hlock, List.foldl_cons, recheck, if_neg hlooks]
  exact hall u.lock.waiters u

/-- An order to an actor that is in no call, and that gives back only what it has, is followed in
one of the ways in which the lock can be used. -/
theorem exists_of_follow {u : Usage} {order : LockOrder} (hidle : u.Idle order.actor)
    (hheld : ∀ access, order.action = .release access → (order.actor, access) ∈ u.held) :
    ∃ v, Relation.ReflTransGen Step u v ∧ v.lock = u.lock.follow order := by
  obtain ⟨actor, action⟩ := order
  cases action with
  | acquire access =>
    obtain ⟨v, hsteps, hlock⟩ := (u.ask actor access).exists_of_settle
    refine ⟨v, .head (.ask access hidle) hsteps, ?_⟩
    rw [hlock, ask, lock_leave]
    rfl
  | release access =>
    obtain ⟨v, hsteps, hlock⟩ := (u.giveBack actor access).exists_of_settle
    exact ⟨v, .head (.giveBack (hheld access rfl) hidle) hsteps, hlock⟩

end Usage

end Lock

end PgGrants
