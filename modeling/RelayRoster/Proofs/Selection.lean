import RelayRoster.Proofs.Book

namespace RelayRoster

namespace Rotation

variable {σ : Type} {readAlive : Nat → σ → Bool × σ}

/-- What every reading keeps, a search keeps. -/
theorem seek_keeps {P : σ → Prop} (hP : ∀ i s, P s → P (readAlive i s).2) {is : List Nat} {s : σ}
    (h : P s) : P (seek readAlive is s).2 := by
  induction is generalizing s with
  | nil => exact h
  | cons i is ih =>
    have hi := hP i s h
    unfold seek
    split
    next s' he => rwa [he] at hi
    next s' he => rw [he] at hi; exact ih hi

theorem pick_keeps {P : σ → Prop} (hP : ∀ i s, P s → P (readAlive i s).2) {n : Nat} {r : Rotation}
    {s : σ} (h : P s) : P (pick readAlive n r s).2.2 := by
  unfold pick
  split
  · exact h
  · exact seek_keeps hP h

theorem pick_rotation {n : Nat} {r : Rotation} {s : σ} (hn : 0 < n) :
    (pick readAlive n r s).2.1 = r.advance (r.cursor.toNat % n) (pick readAlive n r s).1 := by
  unfold pick
  rw [if_neg (Nat.pos_iff_ne_zero.mp hn)]

end Rotation

namespace Roster

def ask (ms : List (String × Nat)) (i : Nat) (r : Roster) : Bool × Roster :=
  readAlive ((ms[i]?.map (·.2)).getD 0) r

/-- The roster in which the members that answered are asked again. -/
def counted (r : Roster) : Roster := r.aliveMembers.2.report (.endpointsFound r.aliveMembers.1.length)

/-- The choice among the members that answered, with the cursor and the roster after it. -/
def choice (r : Roster) : Option Nat × Rotation × Roster :=
  Rotation.pick (ask r.aliveMembers.1) r.aliveMembers.1.length r.counted.rotation r.counted

theorem select_eq (r : Roster) :
    r.select = match r.choice.1.bind (r.aliveMembers.1[·]?) with
      | some m => (some m, { r.choice.2.2 with
          rotation := r.choice.2.1
          metrics := r.choice.2.2.metrics.increment (.selections m.1) })
      | none => (none, { r.choice.2.2 with
          rotation := r.choice.2.1
          metrics := r.choice.2.2.metrics.increment .unavailable
          journal := .noneAvailable r.choice.2.2.registry.size :: r.choice.2.2.journal }) := rfl

theorem select_fst (r : Roster) : r.select.1 = r.choice.1.bind (r.aliveMembers.1[·]?) := by
  rw [select_eq]
  split
  next h => exact h.symm
  next h => exact h.symm

theorem alike_aliveMembers (r : Roster) : Alike r r.aliveMembers.2 :=
  alike_aliveAmong _ _

theorem alike_counted (r : Roster) : Alike r r.counted :=
  (alike_aliveMembers r).trans ⟨rfl, rfl, rfl⟩

theorem alike_choice (r : Roster) : Alike r r.choice.2.2 :=
  Rotation.pick_keeps (P := Alike r) (fun _ s h => h.trans (alike_readAlive _ s)) (alike_counted r)

/-- A selection moves the cursor and leaves the registry alone. -/
theorem alike_select (r : Roster) :
    Alike { r with rotation := r.select.2.rotation } r.select.2 := by
  have h := alike_choice r
  rw [select_eq]
  split
  · exact ⟨h.registry, rfl, h.names⟩
  · exact ⟨h.registry, rfl, h.names⟩

theorem select_rotation (r : Roster) : r.select.2.rotation = r.choice.2.1 := by
  rw [select_eq]
  split <;> rfl

theorem aliveMembers_sublist (r : Roster) : r.aliveMembers.1.Sublist r.registry.published :=
  aliveAmong_sublist _ _

theorem mem_of_select {r : Roster} {m : String × Nat} (h : r.select.1 = some m) :
    m ∈ r.aliveMembers.1 := by
  rw [select_fst, Option.bind_eq_some_iff] at h
  obtain ⟨i, -, hi⟩ := h
  exact List.mem_of_getElem? hi

/-- Where nobody answers, the cursor stays. -/
theorem select_rotation_of_nobody {r : Roster} (h : r.aliveMembers.1 = []) :
    r.select.2.rotation = r.rotation := by
  rw [select_rotation]
  unfold choice Rotation.pick
  rw [if_pos (by rw [h]; rfl)]
  exact (alike_counted r).rotation

end Roster
end RelayRoster
