import Mathlib.Algebra.Order.Group.Multiset
import Mathlib.Data.Finset.Card
import Mathlib.Data.Multiset.AddSub
import Mathlib.Data.Multiset.Filter

/- A pool that lends resources, as the book its owner keeps: which resources there are, which are
   on the list from which they are lent again, which are lent, which are on their way in, and how
   many permits have no loan behind them. A resource may break down (`down`), and a collector may
   have picked it to be thrown away (`condemned`).

   `Step` is every entry the book can take, each under its event. Two events are faults:
   a permit is `lost`, or a loan that is over is given back `again`.

   `Exclusive` is the invariant behind a loan being the only one of its resource: only `again`
   breaks it. From it follow the three rules for a run: `Step.balance` (permits and loans add up),
   `Step.spared` (what is condemned is not lent) and `Step.within` (how many resources are in
   order). `Step.marked` and `Step.totals` hold of every run: what is marked is lent, and a resource
   is lent first as it comes to the list. -/

/-- `used` are those marked as lent, `held` those that are. -/
@[ext]
structure ResourcePool (α : Type*) where
  known : Set α
  used : Set α
  down : Set α
  condemned : Set α
  listed : Multiset α
  held : Multiset α
  opening : Multiset α
  spare : Nat

namespace ResourcePool
variable {α : Type*}

/-- A loan, but for the permit. -/
def lend (a : ResourcePool α) (c : α) : ResourcePool α :=
  { a with used := insert c a.used, held := c ::ₘ a.held }

def enlist (a : ResourcePool α) (c : α) : ResourcePool α := { a with listed := c ::ₘ a.listed }

def learn (a : ResourcePool α) (c : α) : ResourcePool α := { a with known := insert c a.known }

def expect (a : ResourcePool α) (c : α) : ResourcePool α := { a with opening := c ::ₘ a.opening }

def permit (a : ResourcePool α) (n : Nat) : ResourcePool α := { a with spare := a.spare + n }

/-- Resources leave the list, and others may be picked. -/
def trim (a : ResourcePool α) (listed : Multiset α) (condemned : Set α) : ResourcePool α :=
  { a with listed, condemned }

/-- A resource is marked as not lent, and a permit is brought back. -/
def unmark (a : ResourcePool α) (c : α) : ResourcePool α :=
  { a with used := a.used \ {c}, spare := a.spare + 1 }

def withDown (a : ResourcePool α) (down : Set α) : ResourcePool α := { a with down }

def withHeld (a : ResourcePool α) (held : Multiset α) : ResourcePool α := { a with held }

inductive Event (α : Type*) where
  | quiet
  | revive
  | reuse (c : α)
  | opens
  | publish
  | fails
  | lost
  | giveBack
  | again
  deriving DecidableEq

inductive Step (a : ResourcePool α) : Event α → ResourcePool α → Prop
  /-- Resources leave the list, break down, or are picked while they are not lent. -/
  | quiet {down condemned : Set α} {listed : Multiset α} (hdown : a.down ⊆ down)
      (hpicked : ∀ c ∈ condemned, c ∈ a.condemned ∨ c ∈ a.listed ∧ c ∉ a.used)
      (hlisted : listed ≤ a.listed) : Step a .quiet { a with down, condemned, listed }
  | revive {down : Set α} : Step a .revive { a with down }
  | reuse {c : α} {spare : Nat} (hlisted : c ∈ a.listed) (hidle : c ∉ a.used) (hup : c ∉ a.down)
      (hspare : spare + 1 = a.spare) :
      Step a (.reuse c) { a with used := insert c a.used, held := c ::ₘ a.held, spare }
  | opens {c : α} {listed : Multiset α} (hnew : c ∉ a.known) (hlisted : listed ≤ a.listed) :
      Step a .opens { a with known := insert c a.known, listed, opening := c ::ₘ a.opening }
  | publish {c : α} {opening : Multiset α} {spare : Nat} (hopening : a.opening = c ::ₘ opening)
      (hspare : spare + 1 = a.spare) :
      Step a .publish
        { a with
          used := insert c a.used, listed := c ::ₘ a.listed, held := c ::ₘ a.held, opening, spare }
  | fails {opening : Multiset α} (hopening : opening ≤ a.opening) :
      Step a .fails { a with opening }
  | lost {opening : Multiset α} {spare : Nat} (hopening : opening ≤ a.opening)
      (hspare : spare + 1 = a.spare) : Step a .lost { a with opening, spare }
  | giveBack {c : α} {condemned : Set α} {held listed : Multiset α} (hheld : a.held = c ::ₘ held)
      (hlisted : listed ≤ a.listed) (hcondemned : condemned ⊆ a.condemned) :
      Step a .giveBack
        { a with used := a.used \ {c}, condemned, listed, held, spare := a.spare + 1 }
  | again {c : α} {condemned : Set α} {listed : Multiset α} (hlisted : listed ≤ a.listed)
      (hcondemned : condemned ⊆ a.condemned) :
      Step a .again { a with used := a.used \ {c}, condemned, listed, spare := a.spare + 1 }

/-- Nothing is in the book that is not known. -/
structure Known (a : ResourcePool α) : Prop where
  held_known : ∀ c ∈ a.held, c ∈ a.known
  listed_known : ∀ c ∈ a.listed, c ∈ a.known
  opening_known : ∀ c ∈ a.opening, c ∈ a.known

/-- Each resource is in one place, and what is lent is marked. -/
structure Exclusive (a : ResourcePool α) : Prop extends Known a where
  held_nodup : a.held.Nodup
  listed_nodup : a.listed.Nodup
  opening_nodup : a.opening.Nodup
  held_used : ∀ c ∈ a.held, c ∈ a.used
  opening_unlisted : ∀ c ∈ a.opening, c ∉ a.listed
  opening_unheld : ∀ c ∈ a.opening, c ∉ a.held

variable {a a' : ResourcePool α} {e : Event α}

theorem mem_of_cons_eq {s t : Multiset α} {c : α} (h : s = c ::ₘ t) : ∀ x ∈ t, x ∈ s := by
  intro x hx
  rw [h]
  exact Multiset.mem_cons_of_mem hx

/-- What holds of `c` and of the others. -/
theorem forall_mem_cons {P : α → Prop} {s : Multiset α} {c : α} (hc : P c) (h : ∀ x ∈ s, P x) :
    ∀ x ∈ c ::ₘ s, P x := by
  intro x hx
  rcases Multiset.mem_cons.mp hx with rfl | hx
  · exact hc
  · exact h x hx

theorem Step.known (h : Step a e a') (hknown : a.Known) : a'.Known := by
  obtain ⟨hheld, hlisted, hopening⟩ := hknown
  cases h with
  | quiet _ _ hle => exact ⟨hheld, fun c hc => hlisted c (Multiset.mem_of_le hle hc), hopening⟩
  | revive => exact ⟨hheld, hlisted, hopening⟩
  | reuse hc => exact ⟨forall_mem_cons (hlisted _ hc) hheld, hlisted, hopening⟩
  | opens _ hle =>
    exact ⟨fun x hx => Set.mem_insert_of_mem _ (hheld x hx),
      fun x hx => Set.mem_insert_of_mem _ (hlisted x (Multiset.mem_of_le hle hx)),
      forall_mem_cons (Set.mem_insert _ _) (fun x hx => Set.mem_insert_of_mem _ (hopening x hx))⟩
  | @publish c opening spare hcons =>
    have hc : c ∈ a.known := hopening c (hcons ▸ Multiset.mem_cons_self c opening)
    exact ⟨forall_mem_cons hc hheld, forall_mem_cons hc hlisted,
      fun x hx => hopening x (mem_of_cons_eq hcons x hx)⟩
  | fails hle | lost hle =>
    exact ⟨hheld, hlisted, fun x hx => hopening x (Multiset.mem_of_le hle hx)⟩
  | giveBack hcons hle =>
    exact ⟨fun x hx => hheld x (mem_of_cons_eq hcons x hx),
      fun x hx => hlisted x (Multiset.mem_of_le hle hx), hopening⟩
  | again hle => exact ⟨hheld, fun x hx => hlisted x (Multiset.mem_of_le hle hx), hopening⟩

/-- **A loan is the only one of its resource**, until one is given back again. -/
theorem Step.exclusive (h : Step a e a') (hexcl : a.Exclusive) (hagain : e ≠ .again) :
    a'.Exclusive := by
  have hknown := h.known hexcl.toKnown
  cases h with
  | quiet hdown hpicked hlisted =>
    exact { hexcl with
      toKnown := hknown
      listed_nodup := Multiset.nodup_of_le hlisted hexcl.listed_nodup
      opening_unlisted := fun c hc hl =>
        hexcl.opening_unlisted c hc (Multiset.mem_of_le hlisted hl) }
  | revive => exact { hexcl with }
  | @reuse c spare hlisted hidle hup hspare =>
    have hunheld : c ∉ a.held := fun hc => hidle (hexcl.held_used c hc)
    exact { hexcl with
      toKnown := hknown
      held_nodup := Multiset.nodup_cons.mpr ⟨hunheld, hexcl.held_nodup⟩
      held_used := forall_mem_cons (Set.mem_insert _ _)
        (fun x hx => Set.mem_insert_of_mem _ (hexcl.held_used x hx))
      opening_unheld := by
        intro x hx hheld
        rcases Multiset.mem_cons.mp hheld with rfl | hheld
        · exact hexcl.opening_unlisted x hx hlisted
        · exact hexcl.opening_unheld x hx hheld }
  | @opens c listed hnew hlisted =>
    have hsub : ∀ x ∈ listed, x ∈ a.listed := fun x hx => Multiset.mem_of_le hlisted hx
    exact { hexcl with
      toKnown := hknown
      listed_nodup := Multiset.nodup_of_le hlisted hexcl.listed_nodup
      opening_nodup :=
        Multiset.nodup_cons.mpr ⟨fun hc => hnew (hexcl.opening_known c hc), hexcl.opening_nodup⟩
      opening_unlisted := forall_mem_cons (fun hl => hnew (hexcl.listed_known c (hsub c hl)))
        (fun x hx hl => hexcl.opening_unlisted x hx (hsub x hl))
      opening_unheld := forall_mem_cons (fun hheld => hnew (hexcl.held_known c hheld))
        hexcl.opening_unheld }
  | @publish c opening spare hopening hspare =>
    have hc : c ∈ a.opening := hopening ▸ Multiset.mem_cons_self c opening
    have hsub := mem_of_cons_eq hopening
    obtain ⟨hfresh, hnodup⟩ : c ∉ opening ∧ opening.Nodup := by
      rw [← Multiset.nodup_cons, ← hopening]
      exact hexcl.opening_nodup
    exact
      { toKnown := hknown
        held_nodup := Multiset.nodup_cons.mpr ⟨hexcl.opening_unheld c hc, hexcl.held_nodup⟩
        listed_nodup := Multiset.nodup_cons.mpr ⟨hexcl.opening_unlisted c hc, hexcl.listed_nodup⟩
        opening_nodup := hnodup
        held_used := forall_mem_cons (Set.mem_insert _ _)
          (fun x hx => Set.mem_insert_of_mem _ (hexcl.held_used x hx))
        opening_unlisted := by
          intro x hx hl
          rcases Multiset.mem_cons.mp hl with rfl | hl
          · exact hfresh hx
          · exact hexcl.opening_unlisted x (hsub x hx) hl
        opening_unheld := by
          intro x hx hheld
          rcases Multiset.mem_cons.mp hheld with rfl | hheld
          · exact hfresh hx
          · exact hexcl.opening_unheld x (hsub x hx) hheld }
  | fails hopening | lost hopening =>
    have hsub := fun x hx => Multiset.mem_of_le (a := x) hopening hx
    exact { hexcl with
      toKnown := hknown
      opening_nodup := Multiset.nodup_of_le hopening hexcl.opening_nodup
      opening_unlisted := fun x hx => hexcl.opening_unlisted x (hsub x hx)
      opening_unheld := fun x hx => hexcl.opening_unheld x (hsub x hx) }
  | @giveBack c condemned held listed hheld hlisted =>
    have hsub := mem_of_cons_eq hheld
    obtain ⟨hfresh, hnodup⟩ : c ∉ held ∧ held.Nodup := by
      rw [← Multiset.nodup_cons, ← hheld]
      exact hexcl.held_nodup
    exact { hexcl with
      toKnown := hknown
      held_nodup := hnodup
      listed_nodup := Multiset.nodup_of_le hlisted hexcl.listed_nodup
      opening_unlisted := fun x hx hl =>
        hexcl.opening_unlisted x hx (Multiset.mem_of_le hlisted hl)
      held_used := by
        intro x hx
        -- the one given back is not among the others
        exact ⟨hexcl.held_used x (hsub x hx), fun hxc => hfresh (Set.mem_singleton_iff.mp hxc ▸ hx)⟩
      opening_unheld := fun x hx hheld' => hexcl.opening_unheld x hx (hsub x hheld') }
  | again => exact absurd rfl hagain

/-! ## What is marked, and what was ever lent -/

/-- What is marked as lent is lent. -/
def Marked (a : ResourcePool α) : Prop := ∀ c ∈ a.used, c ∈ a.held

/-- **No mark without a loan**, whatever is given back and how often. -/
theorem Step.marked (h : Step a e a') (hmarked : a.Marked) : a'.Marked := by
  cases h with
  | quiet | revive | opens | fails | lost => exact hmarked
  | reuse | publish =>
    intro x hx
    rcases Set.mem_insert_iff.mp hx with rfl | hx
    · exact Multiset.mem_cons_self _ _
    · exact Multiset.mem_cons_of_mem (hmarked x hx)
  | @giveBack c condemned held listed hheld =>
    intro x hx
    have hold := hmarked x hx.1
    rw [hheld] at hold
    exact (Multiset.mem_cons.mp hold).resolve_left hx.2
  | again => exact fun x hx => hmarked x hx.1

/-- Whether an entry makes a loan. -/
def Event.lends : Event α → Prop
  | .reuse _ | .publish => True
  | _ => False

/-- `ever` are the resources that were ever lent, and `n` is how many: what is on the list was, and
what is on its way in was not. -/
structure Totals (a : ResourcePool α) (ever : Finset α) (n : Nat) : Prop where
  total : n = ever.card
  known : ∀ c ∈ ever, c ∈ a.known
  listed : ∀ c ∈ a.listed, c ∈ ever
  opening : ∀ c ∈ a.opening, c ∉ ever
  opening_known : ∀ c ∈ a.opening, c ∈ a.known
  opening_nodup : a.opening.Nodup

/-- **A resource is lent first as it comes to the list**: by as much as the list grows in one entry,
the resources ever lent do. -/
theorem Step.totals [DecidableEq α] {ever ever' : Finset α} {n : Nat} (h : Step a e a')
    (ht : a.Totals ever n)
    (hlends : e.lends → ∃ c, a'.held = c ::ₘ a.held ∧ ever' = insert c ever)
    (hkeeps : ¬ e.lends → ever' = ever) :
    a'.Totals ever' (n + (a'.listed.card - a.listed.card)) := by
  obtain ⟨htotal, hknown, hlisted, hopening, hopened, hnodup⟩ := ht
  have hshrinks : ∀ {l : Multiset α}, l ≤ a.listed → n + (l.card - a.listed.card) = n := by
    intro l hl
    have := Multiset.card_le_card hl
    omega
  cases h with
  | quiet _ _ hle =>
    obtain rfl := hkeeps id
    exact ⟨(hshrinks hle).trans htotal, hknown, fun c hc => hlisted c (Multiset.mem_of_le hle hc),
      hopening, hopened, hnodup⟩
  | revive =>
    obtain rfl := hkeeps id
    exact ⟨(hshrinks le_rfl).trans htotal, hknown, hlisted, hopening, hopened, hnodup⟩
  | @reuse c spare hc =>
    obtain ⟨d, hd, rfl⟩ := hlends trivial
    obtain rfl : c = d := (Multiset.cons_inj_left a.held).mp hd
    -- what is lent again was lent before
    rw [Finset.insert_eq_of_mem (hlisted c hc)]
    exact ⟨(hshrinks le_rfl).trans htotal, hknown, hlisted, hopening, hopened, hnodup⟩
  | @opens c listed hnew hle =>
    obtain rfl := hkeeps id
    refine ⟨(hshrinks hle).trans htotal, fun x hx => Set.mem_insert_of_mem _ (hknown x hx),
      fun x hx => hlisted x (Multiset.mem_of_le hle hx),
      forall_mem_cons (fun hc => hnew (hknown c hc)) hopening,
      forall_mem_cons (Set.mem_insert _ _) (fun x hx => Set.mem_insert_of_mem _ (hopened x hx)),
      Multiset.nodup_cons.mpr ⟨fun hc => hnew (hopened c hc), hnodup⟩⟩
  | @publish c opening spare hcons =>
    obtain ⟨d, hd, rfl⟩ := hlends trivial
    obtain rfl : c = d := (Multiset.cons_inj_left a.held).mp hd
    have hc : c ∈ a.opening := hcons ▸ Multiset.mem_cons_self c opening
    have hsub := mem_of_cons_eq hcons
    rw [hcons] at hnodup
    obtain ⟨hfresh, hnodup⟩ := Multiset.nodup_cons.mp hnodup
    refine ⟨?_, fun x hx => ?_, fun x hx => ?_, fun x hx hever => ?_,
      fun x hx => hopened x (hsub x hx), hnodup⟩
    · rw [Finset.card_insert_of_notMem (hopening c hc), ← htotal, Multiset.card_cons]
      omega
    · rcases Finset.mem_insert.mp hx with rfl | hx
      · exact hopened _ hc
      · exact hknown x hx
    · rcases Multiset.mem_cons.mp hx with rfl | hx
      · exact Finset.mem_insert_self _ _
      · exact Finset.mem_insert_of_mem (hlisted x hx)
    · rcases Finset.mem_insert.mp hever with rfl | hever
      · exact hfresh hx
      · exact hopening x (hsub x hx) hever
  | fails hle | lost hle =>
    obtain rfl := hkeeps id
    exact ⟨(hshrinks le_rfl).trans htotal, hknown, hlisted,
      fun x hx => hopening x (Multiset.mem_of_le hle hx),
      fun x hx => hopened x (Multiset.mem_of_le hle hx), Multiset.nodup_of_le hle hnodup⟩
  | giveBack _ hle | again hle =>
    obtain rfl := hkeeps id
    exact ⟨(hshrinks hle).trans htotal, hknown, fun x hx => hlisted x (Multiset.mem_of_le hle hx),
      hopening, hopened, hnodup⟩

/-! ## Permits -/

/-- **Permits and loans add up**, but for the two faults. -/
theorem Step.balance (h : Step a e a') (hlost : e ≠ .lost) (hagain : e ≠ .again) :
    a'.spare + a'.held.card = a.spare + a.held.card := by
  cases h with
  | quiet | revive | opens | fails => rfl
  | reuse hlisted hidle hup hspare =>
    rw [Multiset.card_cons]
    dsimp only
    omega
  | publish hopening hspare =>
    rw [Multiset.card_cons]
    dsimp only
    omega
  | lost => exact absurd rfl hlost
  | giveBack hheld hlisted =>
    rw [hheld, Multiset.card_cons]
    dsimp only
    omega
  | again => exact absurd rfl hagain

theorem Step.balance_lost (h : Step a .lost a') :
    a'.spare + a'.held.card + 1 = a.spare + a.held.card := by
  cases h with
  | lost hopening hspare =>
    dsimp only
    omega

theorem Step.balance_again (h : Step a .again a') :
    a'.spare + a'.held.card = a.spare + a.held.card + 1 := by
  cases h with
  | again hlisted =>
    dsimp only
    omega

/-- Where no loan is given back again, the sum does not grow. -/
theorem Step.balance_le (h : Step a e a') (hagain : e ≠ .again) :
    a'.spare + a'.held.card ≤ a.spare + a.held.card := by
  by_cases hlost : e = .lost
  · subst hlost
    have := h.balance_lost
    omega
  · exact (h.balance hlost hagain).le

/-! ## The condemned -/

/-- What is condemned is neither lent nor on its way in. -/
def Spared (a : ResourcePool α) : Prop :=
  ∀ c ∈ a.condemned, c ∈ a.known ∧ c ∉ a.held ∧ c ∉ a.opening

/-- **What is condemned is not lent**, if it is not lent after it was picked. -/
theorem Step.spared (h : Step a e a') (hexcl : a.Exclusive) (hspared : a.Spared)
    (hreuse : ∀ c, e = .reuse c → c ∉ a.condemned) : a'.Spared := by
  cases h with
  | quiet hdown hpicked hlisted =>
    intro c hc
    rcases hpicked c hc with hold | ⟨hl, hidle⟩
    · exact hspared c hold
    · exact ⟨hexcl.listed_known c hl, fun hheld => hidle (hexcl.held_used c hheld),
        fun hop => hexcl.opening_unlisted c hop hl⟩
  | revive => exact hspared
  | @reuse d =>
    intro c hc
    obtain ⟨hknown, hunheld, hunopened⟩ := hspared c hc
    refine ⟨hknown, fun hheld => ?_, hunopened⟩
    rcases Multiset.mem_cons.mp hheld with rfl | hheld
    · exact hreuse _ rfl hc
    · exact hunheld hheld
  | opens hnew hlisted =>
    intro c hc
    obtain ⟨hknown, hunheld, hunopened⟩ := hspared c hc
    refine ⟨Set.mem_insert_of_mem _ hknown, hunheld, fun hop => ?_⟩
    rcases Multiset.mem_cons.mp hop with rfl | hop
    · exact hnew hknown
    · exact hunopened hop
  | @publish d opening spare hopening =>
    intro c hc
    obtain ⟨hknown, hunheld, hunopened⟩ := hspared c hc
    rw [hopening] at hunopened
    refine ⟨hknown, fun hheld => ?_, fun hop => hunopened (Multiset.mem_cons_of_mem hop)⟩
    rcases Multiset.mem_cons.mp hheld with rfl | hheld
    · exact hunopened (Multiset.mem_cons_self _ _)
    · exact hunheld hheld
  | fails hopening | lost hopening =>
    intro c hc
    obtain ⟨hknown, hunheld, hunopened⟩ := hspared c hc
    exact ⟨hknown, hunheld, fun hop => hunopened (Multiset.mem_of_le hopening hop)⟩
  | giveBack hheld hlisted hcondemned =>
    intro c hc
    obtain ⟨hknown, hunheld, hunopened⟩ := hspared c (hcondemned hc)
    rw [hheld] at hunheld
    exact ⟨hknown, fun hh => hunheld (Multiset.mem_cons_of_mem hh), hunopened⟩
  | again hlisted hcondemned => exact fun c hc => hspared c (hcondemned hc)

/-! ## How many -/

section Idle
open Classical

/-- Listed, not lent, and in order. -/
noncomputable def idle (a : ResourcePool α) : Multiset α :=
  a.listed.filter (fun c => c ∉ a.used ∧ c ∉ a.down)

theorem mem_idle {c : α} : c ∈ a.idle ↔ c ∈ a.listed ∧ c ∉ a.used ∧ c ∉ a.down := by
  unfold idle
  exact Multiset.mem_filter

theorem nodup_idle (h : a.listed.Nodup) : a.idle.Nodup := by
  unfold idle
  exact Multiset.nodup_of_le (Multiset.filter_le _ _) h

end Idle

/-- No resource is idle that was not. -/
theorem card_idle_le (hnodup : a'.listed.Nodup) (h : ∀ c ∈ a'.idle, c ∈ a.idle) :
    a'.idle.card ≤ a.idle.card :=
  Multiset.card_le_card ((Multiset.le_iff_subset (nodup_idle hnodup)).mpr h)

/-- Loans, resources on their way in, and idle ones in order are at most `n`. -/
def Within (a : ResourcePool α) (n : Nat) : Prop :=
  a.idle.card + a.held.card + a.opening.card ≤ n

/-- **At most `n`**, if a resource is opened only where fewer are idle or on their way in than
permits have no loan, and none is in order again. -/
theorem Step.within {n : Nat} (h : Step a e a') (hexcl : a.Exclusive) (hagain : e ≠ .again)
    (hrevive : e ≠ .revive) (hopens : e = .opens → a.idle.card + a.opening.card < a.spare)
    (hspare : a.spare + a.held.card ≤ n) (hwithin : a.Within n) : a'.Within n := by
  have hnodup := (h.exclusive hexcl hagain).listed_nodup
  unfold Within at hwithin ⊢
  cases h with
  | quiet hdown hpicked hlisted =>
    have hidle := card_idle_le (a := a) hnodup (by
      intro x hx
      obtain ⟨hl, hu, hd⟩ := mem_idle.mp hx
      exact mem_idle.mpr ⟨Multiset.mem_of_le hlisted hl, hu, fun hx => hd (hdown hx)⟩)
    dsimp only at hidle ⊢
    omega
  | revive => exact absurd rfl hrevive
  | @reuse c spare hlisted hunused hup =>
    have hidle : c ::ₘ idle { a with used := insert c a.used, held := c ::ₘ a.held, spare } ≤
        a.idle := by
      have hgone : c ∉ idle { a with used := insert c a.used, held := c ::ₘ a.held, spare } :=
        fun hc => (mem_idle.mp hc).2.1 (Set.mem_insert _ _)
      rw [Multiset.le_iff_subset (Multiset.nodup_cons.mpr ⟨hgone, nodup_idle hnodup⟩)]
      intro x hx
      rcases Multiset.mem_cons.mp hx with rfl | hx
      · exact mem_idle.mpr ⟨hlisted, hunused, hup⟩
      · obtain ⟨hl, hu, hd⟩ := mem_idle.mp hx
        exact mem_idle.mpr ⟨hl, fun hux => hu (Set.mem_insert_of_mem _ hux), hd⟩
    have hcard := Multiset.card_le_card hidle
    rw [Multiset.card_cons] at hcard
    rw [Multiset.card_cons]
    dsimp only at hcard ⊢
    omega
  | @opens c listed hnew hlisted =>
    have hroom := hopens rfl
    have hidle := card_idle_le (a := a) hnodup (by
      intro x hx
      obtain ⟨hl, hu, hd⟩ := mem_idle.mp hx
      exact mem_idle.mpr ⟨Multiset.mem_of_le hlisted hl, hu, hd⟩)
    rw [Multiset.card_cons]
    dsimp only at hidle ⊢
    omega
  | @publish c opening spare hopening =>
    -- the new one is lent at once
    have hidle := card_idle_le (a := a) hnodup (by
      intro x hx
      obtain ⟨hl, hu, hd⟩ := mem_idle.mp hx
      rcases Multiset.mem_cons.mp hl with rfl | hl
      · exact absurd (Set.mem_insert _ _) hu
      · exact mem_idle.mpr ⟨hl, fun hux => hu (Set.mem_insert_of_mem _ hux), hd⟩)
    rw [hopening, Multiset.card_cons] at hwithin
    rw [Multiset.card_cons]
    dsimp only at hidle ⊢
    omega
  | fails hopening | lost hopening =>
    have hidle := card_idle_le (a := a) hnodup (fun x hx => mem_idle.mpr (mem_idle.mp hx))
    have hcard := Multiset.card_le_card hopening
    dsimp only at hidle ⊢
    omega
  | @giveBack c condemned held listed hheld hlisted =>
    have hidle : idle
        { a with used := a.used \ {c}, condemned, listed, held, spare := a.spare + 1 } ≤
        c ::ₘ a.idle := by
      rw [Multiset.le_iff_subset (nodup_idle hnodup)]
      intro x hx
      obtain ⟨hl, hu, hd⟩ := mem_idle.mp hx
      by_cases hxc : x = c
      · exact Multiset.mem_cons.mpr (.inl hxc)
      · exact Multiset.mem_cons_of_mem
          (mem_idle.mpr ⟨Multiset.mem_of_le hlisted hl, fun hux => hu ⟨hux, hxc⟩, hd⟩)
    have hcard := Multiset.card_le_card hidle
    rw [hheld, Multiset.card_cons] at hwithin
    rw [Multiset.card_cons] at hcard
    dsimp only at hcard ⊢
    omega
  | again => exact absurd rfl hagain

end ResourcePool
