import Chassis.Dict
import Mathlib.Algebra.Order.Field.Rat
import Mathlib.Order.WithBot

set_option autoImplicit false

namespace Chassis.Redis

variable {κ ν : Type}

-- Every key with its value and the time at which it vanishes; a key without a
-- time to live never does.
abbrev Database (κ ν : Type) := Dict κ (ν × WithTop Rat)

variable [DecidableEq κ]

-- A key is there up to the instant of its expiry, that instant included.
def find (now : Rat) (database : Database κ ν) (key : κ) : Option (ν × WithTop Rat) :=
  (database.get key).filter (fun entry => (now : WithTop Rat) ≤ entry.2)

def setex (now : Rat) (database : Database κ ν) (key : κ) (seconds : Int) (value : ν) : Database κ ν :=
  database.set key (value, ((now + seconds : Rat) : WithTop Rat))

def expire (now : Rat) (database : Database κ ν) (key : κ) (seconds : Int) : Database κ ν :=
  match find now database key with
  | none => database
  | some (value, _) => setex now database key seconds value

-- A missing key counts from zero, and without a time to live.
def incr (now : Rat) (database : Database κ Int) (key : κ) : Database κ Int × Int :=
  match find now database key with
  | none => (database.set key (1, ⊤), 1)
  | some (count, expiry) => (database.set key (count + 1, expiry), count + 1)

theorem find_eq_some (now : Rat) (database : Database κ ν) (key : κ) (entry : ν × WithTop Rat) :
    find now database key = some entry ↔ database.get key = some entry ∧ (now : WithTop Rat) ≤ entry.2 := by
  rw [find, Option.filter_eq_some_iff, decide_eq_true_iff]

theorem find_same (now : Rat) (left right : Database κ ν) (key : κ) (same : left.get key = right.get key) :
    find now left key = find now right key := by
  rw [find, find, same]

theorem find_set_self (now : Rat) (database : Database κ ν) (key : κ) (entry : ν × WithTop Rat)
    (alive : (now : WithTop Rat) ≤ entry.2) : find now (database.set key entry) key = some entry := by
  rw [find_eq_some, Dict.get_set, if_pos rfl]
  exact ⟨rfl, alive⟩

theorem find_pop_self (now : Rat) (database : Database κ ν) (key : κ) : find now (database.pop key) key = none := by
  rw [find, Dict.get_pop, if_pos rfl]
  rfl

theorem find_set (now : Rat) (database : Database κ ν) (key other : κ) (entry : ν × WithTop Rat)
    (different : other ≠ key) : find now (database.set key entry) other = find now database other := by
  rw [find, find, Dict.get_set, if_neg different]

theorem find_pop (now : Rat) (database : Database κ ν) (key other : κ) (different : other ≠ key) :
    find now (database.pop key) other = find now database other := by
  rw [find, find, Dict.get_pop, if_neg different]

theorem find_empty (now : Rat) (key : κ) : find now (Dict.empty : Database κ ν) key = none := rfl

theorem find_later (now later : Rat) (database : Database κ ν) (key : κ) (ordered : now ≤ later)
    (gone : find now database key = none) : find later database key = none := by
  rw [Option.eq_none_iff_forall_ne_some]
  intro entry found
  obtain ⟨held, alive⟩ := (find_eq_some later database key entry).mp found
  have before : find now database key = some entry :=
    (find_eq_some now database key entry).mpr ⟨held, le_trans (WithTop.coe_le_coe.mpr ordered) alive⟩
  rw [gone] at before
  cases before

theorem incr_first (now : Rat) (database : Database κ Int) (key : κ) (gone : find now database key = none) :
    incr now database key = (database.set key (1, ⊤), 1) := by
  rw [incr, gone]

theorem incr_next (now : Rat) (database : Database κ Int) (key : κ) (count : Int) (expiry : WithTop Rat)
    (found : find now database key = some (count, expiry)) :
    incr now database key = (database.set key (count + 1, expiry), count + 1) := by
  rw [incr, found]

theorem incr_other (now : Rat) (database : Database κ Int) (key other : κ) (different : other ≠ key) :
    (incr now database key).1.get other = database.get other := by
  cases found : find now database key with
  | none => rw [incr_first now database key found, Dict.get_set, if_neg different]
  | some entry => rw [incr_next now database key entry.1 entry.2 found, Dict.get_set, if_neg different]

theorem expire_found (now : Rat) (database : Database κ ν) (key : κ) (seconds : Int) (value : ν)
    (expiry : WithTop Rat) (found : find now database key = some (value, expiry)) :
    expire now database key seconds = setex now database key seconds value := by
  rw [expire, found]

theorem expire_other (now : Rat) (database : Database κ ν) (key other : κ) (seconds : Int) (different : other ≠ key) :
    (expire now database key seconds).get other = database.get other := by
  cases found : find now database key with
  | none => rw [expire, found]
  | some entry => rw [expire_found now database key seconds entry.1 entry.2 found, setex, Dict.get_set, if_neg different]

end Chassis.Redis
