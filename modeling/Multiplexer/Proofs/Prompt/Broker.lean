import Mathlib.Data.List.Perm.Basic
import Mathlib.Data.List.Nodup
import Multiplexer.Prompt.Broker

/-!
# Places at the prompt broker

A call stands in one place: its question waits for room, it waits for its reply,
or it was told how its question ended. What a broker does moves calls from one
place to the next and loses none.
-/

namespace Multiplexer

def Asked.refusal (a : Asked) : Nat × Answer := (a.number, a.question.declined)

namespace PromptBroker

def places (b : PromptBroker) : List Nat :=
  b.waiting.map Asked.number ++ (b.pending.map (·.asked.number) ++ b.told.map Prod.fst)

variable {b : PromptBroker} {a : Asked} {n : Nat} {x : Answer}

theorem foldl_decline (as : List Asked) (b : PromptBroker) :
    as.foldl decline b = { b with told := b.told ++ as.map Asked.refusal } := by
  induction as generalizing b with
  | nil => simp
  | cons a as ih => simp [ih, decline, tell, Asked.refusal]

/-- What is overdue is declined, and nothing else happens. -/
theorem expire_eq (b : PromptBroker) :
    b.expire =
      { b with
        pending := b.pending.filter fun p => b.now < p.deadline
        told := b.told ++ (b.pending.filter fun p => p.deadline ≤ b.now).map (·.asked.refusal) } := by
  have hfold (ps : List Pending) (b : PromptBroker) :
      ps.foldl (fun b p => b.decline p.asked) b = (ps.map (·.asked)).foldl decline b := by
    rw [List.foldl_map]
  simp only [expire, List.partition_eq_filter_filter, hfold, foldl_decline, List.map_map,
    Function.comp_def]
  congr 1
  exact List.filter_congr fun p _ => by simp [← decide_not]

/-- Letting a question in either changes nothing or puts the first that waits into the channel. -/
theorem letIn_cases (b : PromptBroker) :
    b.letIn = b ∨ ∃ a rest, b.waiting = a :: rest ∧
      b.letIn = ({ b with waiting := rest }.enter a).expire := by
  unfold letIn
  split
  case h_1 a rest hwaiting =>
    split
    · exact .inr ⟨a, rest, hwaiting, rfl⟩
    · exact .inl rfl
  case h_2 => exact .inl rfl

/-- A reply tells the call that waits for it, and nobody if none does. -/
theorem reply_eq (b : PromptBroker) (n : Nat) (x : Answer) :
    (b.reply n x).2 =
      { b with
        pending := b.pending.filter fun p => p.asked.number ≠ n
        told := b.told ++ if b.awaits n then [(n, x)] else [] } := by
  unfold reply
  split
  · rfl
  · rename_i hnone
    have hkeep : b.pending.filter (fun p => p.asked.number ≠ n) = b.pending := by
      refine List.filter_eq_self.2 fun p hp => ?_
      simp only [awaits, List.any_eq_true, not_exists, not_and, beq_iff_eq] at hnone
      simpa using hnone p hp
    rw [hkeep, List.append_nil]

theorem reply_delivered (b : PromptBroker) (n : Nat) (x : Answer) :
    (b.reply n x).1 = b.awaits n := by
  unfold reply
  split <;> simp_all

theorem dropReply_eq (b : PromptBroker) (a : Asked) :
    b.dropReply a = (b.reply a.number a.question.declined).2 := by
  unfold dropReply reply
  split <;> rfl

/-- Dropping questions lets go of whoever waits for their replies, and tells them refusals. -/
theorem foldl_dropReply_eq (as : List Asked) (b : PromptBroker) :
    ∃ refused, refused ⊆ as ∧ as.foldl dropReply b =
      { b with
        pending := b.pending.filter fun p => p.asked.number ∉ as.map Asked.number
        told := b.told ++ refused.map Asked.refusal } := by
  induction as generalizing b with
  | nil => exact ⟨[], by simp⟩
  | cons a as ih =>
    obtain ⟨refused, hsub, hfold⟩ := ih (b.dropReply a)
    refine ⟨(if b.awaits a.number then [a] else []) ++ refused, ?_, ?_⟩
    · refine List.append_subset.2 ⟨?_, List.Subset.trans hsub (List.subset_cons_self a as)⟩
      split <;> simp
    · rw [List.foldl_cons, hfold, dropReply_eq, reply_eq]
      have hpending : (b.pending.filter fun p => p.asked.number ≠ a.number).filter
            (fun p => p.asked.number ∉ as.map Asked.number) =
          b.pending.filter fun p => p.asked.number ∉ (a :: as).map Asked.number := by
        rw [List.filter_filter]
        refine List.filter_congr fun p _ => ?_
        rw [Bool.eq_iff_iff]
        simp [and_comm]
      simp only [hpending, List.map_append, List.append_assoc]
      congr 2
      split <;> rfl

/-- Taking no more questions refuses those that wait for room and those in the channel. -/
theorem close_eq (b : PromptBroker) :
    ∃ refused, refused ⊆ b.waiting ++ b.queue ∧ b.close =
      { b with
        received := false
        waiting := []
        queue := []
        pending := b.pending.filter fun p => p.asked.number ∉ b.queue.map Asked.number
        told := b.told ++ refused.map Asked.refusal } := by
  obtain ⟨refused, hsub, hfold⟩ := foldl_dropReply_eq b.queue
    (b.waiting.foldl decline { b with received := false, waiting := [], queue := [] })
  refine ⟨b.waiting ++ refused, ?_, ?_⟩
  · exact List.append_subset.2
      ⟨List.subset_append_left .., List.Subset.trans hsub (List.subset_append_right ..)⟩
  · refine hfold.trans ?_
    simp only [foldl_decline, List.map_append, List.append_assoc]

section Places

/-- What is overdue leaves its place for that of the told. -/
theorem places_expire (b : PromptBroker) : b.expire.places.Perm b.places := by
  have hsplit : (b.pending.map (·.asked.number)).Perm
      ((b.pending.filter fun p => b.now < p.deadline).map (·.asked.number) ++
        (b.pending.filter fun p => p.deadline ≤ b.now).map (·.asked.number)) := by
    rw [← List.map_append]
    refine .map _ ?_
    refine (List.filter_append_perm (fun p : Pending => b.now < p.deadline) b.pending).symm.trans ?_
    exact .append_left _ (.of_eq (List.filter_congr fun p _ => by simp [← decide_not]))
  rw [expire_eq]
  simp only [places, List.map_append, List.map_map, Function.comp_def, Asked.refusal]
  refine .append_left _ ?_
  refine (List.Perm.append_left _ List.perm_append_comm).trans ?_
  rw [← List.append_assoc]
  exact hsplit.symm.append_right _

theorem places_enter (b : PromptBroker) (a : Asked) :
    (b.enter a).places.Perm ({ b with waiting := a :: b.waiting } : PromptBroker).places := by
  simp only [places, enter, List.map_append, List.map_cons, List.map_nil, List.append_assoc,
    List.cons_append]
  exact (List.Perm.append_left _ List.perm_middle).trans List.perm_middle

/-- Telling a call that waits for its reply how its question ended. -/
theorem places_tell (hplaces : b.places.Nodup) (h : b.awaits n) (x : Answer) :
    ((b.release n).tell n x).places.Perm b.places := by
  have hnodup : (b.pending.map (·.asked.number)).Nodup :=
    (List.nodup_append.1 (List.nodup_append.1 hplaces).2.1).1
  have hmem : n ∈ b.pending.map (·.asked.number) := by
    simpa [awaits] using h
  have herase : (b.pending.filter fun p => p.asked.number ≠ n).map (·.asked.number) =
      (b.pending.map (·.asked.number)).erase n := by
    rw [hnodup.erase_eq_filter, List.filter_map]
    congr 1
    exact List.filter_congr fun p _ => by simp [bne, beq_eq_decide]
  simp only [places, release, tell, List.map_append, List.map_cons, List.map_nil]
  refine .append_left _ ?_
  rw [herase]
  calc ((b.pending.map (·.asked.number)).erase n ++ (b.told.map Prod.fst ++ [n])).Perm
        ((b.pending.map (·.asked.number)).erase n ++ n :: b.told.map Prod.fst) :=
        .append_left _ (List.perm_append_singleton _ _)
    List.Perm _ (n :: (b.pending.map (·.asked.number)).erase n ++ b.told.map Prod.fst) :=
        List.perm_middle
    List.Perm _ (b.pending.map (·.asked.number) ++ b.told.map Prod.fst) :=
        (List.perm_cons_erase hmem).symm.append_right _

/-- A reply moves the call that waits for it to the told. -/
theorem places_reply (hplaces : b.places.Nodup) (n : Nat) (x : Answer) :
    (b.reply n x).2.places.Perm b.places := by
  unfold reply
  split
  · rename_i h
    exact places_tell hplaces h x
  · rfl

theorem places_foldl_dropReply (as : List Asked) (hplaces : b.places.Nodup) :
    (as.foldl dropReply b).places.Perm b.places := by
  induction as generalizing b with
  | nil => rfl
  | cons a as ih =>
    have hdrop : (b.dropReply a).places.Perm b.places := by
      rw [dropReply_eq]
      exact places_reply hplaces _ _
    exact (ih (hdrop.nodup_iff.2 hplaces)).trans hdrop

/-- When the channel closes, nobody loses his place but to be told. -/
theorem places_close (hplaces : b.places.Nodup) : b.close.places.Perm b.places := by
  have hwaiting : ({ b with
        received := false, waiting := [], queue := []
        told := b.told ++ b.waiting.map Asked.refusal } : PromptBroker).places.Perm b.places := by
    simp only [places, List.map_nil, List.nil_append, List.map_append, List.map_map,
      Function.comp_def, Asked.refusal]
    rw [← List.append_assoc]
    exact List.perm_append_comm
  simp only [close, foldl_decline]
  exact (places_foldl_dropReply _ (hwaiting.nodup_iff.2 hplaces)).trans hwaiting

end Places

/-- Whether no call waits past its time. -/
def Punctual (b : PromptBroker) : Prop := ∀ p ∈ b.pending, b.now < p.deadline

section Punctual

/-- Once what is overdue is declined, no call waits past its time. -/
theorem punctual_expire (b : PromptBroker) : b.expire.Punctual := by
  rw [expire_eq]
  intro p hp
  simpa using (List.mem_filter.1 hp).2

theorem Punctual.letIn (h : b.Punctual) : b.letIn.Punctual := by
  rcases b.letIn_cases with hsame | ⟨a, rest, -, hletIn⟩
  · rwa [hsame]
  · rw [hletIn]
    exact punctual_expire _

/-- A question that is put keeps the calls in time. -/
theorem Punctual.ask (h : b.Punctual) (q : Question) : (b.ask q).2.Punctual := by
  simp only [PromptBroker.ask]
  split
  · exact Punctual.letIn h
  · exact h

/-- A question that is taken out keeps the calls in time. -/
theorem Punctual.receive (h : b.Punctual) : b.receive.2.Punctual := by
  unfold PromptBroker.receive
  split
  · exact Punctual.letIn h
  · exact h

/-- A reply keeps the calls in time. -/
theorem Punctual.reply (h : b.Punctual) (n : Nat) (x : Answer) : (b.reply n x).2.Punctual := by
  rw [reply_eq]
  exact fun p hp => h p (List.mem_filter.1 hp).1

theorem Punctual.close (h : b.Punctual) : b.close.Punctual := by
  obtain ⟨refused, -, hclose⟩ := b.close_eq
  rw [hclose]
  exact fun p hp => h p (List.mem_filter.1 hp).1

end Punctual

end PromptBroker

end Multiplexer
