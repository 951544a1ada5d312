import Mathlib.Data.List.Induction
import Multiplexer.Proofs.Connector.Drops
import Multiplexer.Proofs.Connector.Prompt

/-!
# Reports that wait to be read

In a prompt run a report about the connection that a serial session holds waits
for the turn of its watch, whatever else has a turn meanwhile, and nothing comes
from outside before that turn.
-/

namespace Multiplexer

open TurnM Reopener

section Watched

variable {id : SessionId} {c c' : Connector} {t t' : Task} {ts new : List Task} {s : Signal}
  {w : Watcher}

/-- Only the watch of its connection changes anything about a session that has a watcher. -/
theorem Kept.slot_of_watched (h : Kept id c (t :: ts)) (hw : (c.slot id).watcher = some w)
    (hmove : Move c t s t' c' new)
    (hother : ∀ session channel, t ≠ .watch session (.watching w.generation channel)) :
    c'.slot id = c.slot id := by
  by_cases hserves : t.serves = some id
  swap
  · exact hmove.slot hserves
  have hgrounded : t.mode id ≠ .flying :=
    h.grounded (by rw [h.watched w hw]; exact nofun) t List.mem_cons_self
  have hwatched : (c.slot id).watcher ≠ none := by simp [hw]
  have hsuits := h.suits t List.mem_cons_self
  cases hmove with
  | fail a stage s e hstage =>
    exact absurd ((if_pos (Option.some.inj hserves)).trans hstage) hgrounded
  | connect | «open» | reopen => exact absurd (if_pos (Option.some.inj hserves)) hgrounded
  | drop session channel d v hv =>
    obtain rfl := Option.some.inj hserves
    obtain rfl : v = w := Option.some.inj (hv.symm.trans hw)
    exact absurd rfl (hother session channel)
  | report => exact absurd (hsuits (Option.some.inj hserves)).2.1 hwatched
  | claim => exact absurd (hsuits (Option.some.inj hserves)).1 hwatched
  | disconnected => exact absurd (hsuits (Option.some.inj hserves)).2 hwatched
  | pause session stage s d c₁ step hpauses =>
    rw [Connector.slot_paused]
    cases hpauses with
    | dropped => exact absurd (hsuits (Option.some.inj hserves)).2.1 hwatched
    | refused => exact absurd (if_pos (Option.some.inj hserves)) hgrounded
    | calledOff | forgotten | overtaken | succeeded => rfl
  | _ => rfl

end Watched

namespace Exchange

variable {s : Exchange} {n : Nat} {a : Attachment} {d : Drop} {e : Event} {es : List Event}

/-- The last event of a run happens where the others have led. -/
theorem run_concat (s : Exchange) (es : List Event) (e : Event) :
    s.run (es ++ [e]) = (s.run es).step e := by
  simp [run]

/-- Whether some event of a run has a property in the state that it meets. -/
def Happens (s : Exchange) (es : List Event) (P : Exchange → Event → Prop) : Prop :=
  ∃ mid e, mid ++ [e] <+: es ∧ P (s.run mid) e

/-- Something happens in a run if it did before the last event, or with it. -/
theorem happens_concat {P : Exchange → Event → Prop} :
    s.Happens (es ++ [e]) P ↔ s.Happens es P ∨ P (s.run es) e := by
  constructor
  · rintro ⟨mid, e', hprefix, hP⟩
    obtain heq | hprefix := List.prefix_concat_iff.1 hprefix
    · obtain ⟨rfl, hlast⟩ := List.append_inj' heq rfl
      obtain rfl : e' = e := by simpa using hlast
      exact .inr hP
    · exact .inl ⟨mid, e', hprefix, hP⟩
  · rintro (⟨mid, e', hprefix, hP⟩ | hP)
    · exact ⟨mid, e', hprefix.trans (List.prefix_append _ _), hP⟩
    · exact ⟨es, e, List.prefix_rfl, hP⟩

theorem not_happens_nil {P : Exchange → Event → Prop} : ¬s.Happens [] P := by
  rintro ⟨mid, e, hprefix, -⟩
  simp at hprefix

theorem Happens.concat {P : Exchange → Event → Prop} (h : s.Happens es P) (e : Event) :
    s.Happens (es ++ [e]) P :=
  happens_concat.2 (.inl h)

def Outward (s : Exchange) (e : Event) : Prop := s.hurries e = false ∧ s.within e = false

/-- The first report about the connection that a session holds is there, and its watch has not
read it. -/
structure Due (s : Exchange) (n : Nat) (a : Attachment) (d : Drop) : Prop where
  current : s.Current n a
  report : (s.connector.channel a.channel).next.1 = .report d

namespace Due

/-- A watch hears the report that is due. -/
theorem hears (h : s.Due n a d) :
    s.connector.hears (.watch a.session (.watching a.generation a.channel)) (.reported d) = true := by
  simp [Connector.hears, Task.wait, h.report]

/-- Nobody has told the watch to stop, so that the report is all it can be told. -/
theorem eq_of_hears (h : s.Due n a d) (hmanned : Manned s.connector s.tasks) {signal : Signal}
    (hears : s.connector.hears (.watch a.session (.watching a.generation a.channel)) signal = true) :
    signal = .reported d := by
  cases signal with
  | reported d' =>
    have hreport : ((s.connector.channel a.channel).next.1 == .report d') = true := hears
    rw [h.report, beq_iff_eq] at hreport
    rw [Reading.report.inj hreport]
  | stopped =>
    exact absurd (List.contains_iff_mem.1 hears) (hmanned.watched _ _ h.current.watcher).1
  | _ => cases hears

/-- Nothing comes from outside while a report is due. -/
theorem not_outward (h : s.Due n a d) (hprompt : s.prompt e = true) : ¬s.Outward e := by
  rintro ⟨hhurries, hwithin⟩
  have hrouses := rouses_of_prompt hprompt hhurries hwithin _ (List.mem_of_getElem? h.current.task)
  simp [Connector.rouses, Connector.holdsReport, h.report] at hrouses

end Due

/-- Two tasks do not have the same channel. -/
theorem Sound.eq_of_channel (h : s.Sound) {m : Nat} {t u : Task} {p q : Post}
    (ht : s.tasks[m]? = some t) (hu : s.tasks[n]? = some u) (hp : t.post = some p)
    (hq : u.post = some q) (hpq : p.channel = q.channel) : m = n := by
  by_contra hne
  have hperm := (perm_eraseIdx ht).filterMap Task.post
  have hnodup := (hperm.map Post.channel).nodup_iff.1 h.distinct
  rw [List.filterMap_cons_some hp, List.map_cons, List.nodup_cons] at hnodup
  have hmem : u ∈ s.tasks.eraseIdx m :=
    List.mem_eraseIdx_iff_getElem?.2 ⟨n, Ne.symm hne, hu⟩
  exact hnodup.1 (List.mem_map.2 ⟨q, List.mem_filterMap.2 ⟨u, hmem, hq⟩, hpq.symm⟩)

namespace Due

/-- A report stays due while other tasks have their turns. -/
theorem other {m : Nat} {signal : Signal} (h : s.Due n a d) (hregular : s.Regular)
    (hkept : Kept a.session.id s.connector s.tasks) (hm : m ≠ n) :
    (s.step (.resume m signal)).Due n a d := by
  cases ht : s.tasks[m]? with
  | none => simpa [step, ht] using h
  | some t =>
    cases hears : s.connector.hears t signal with
    | false => rwa [step_resume_unheard ht hears]
    | true =>
      have htask := task_step (e := .resume m signal) (by simpa [Event.isTurnOf] using hm)
        h.current.task
      have hwired := sound_step (.resume m signal) hregular.wired
      have hpost : ∀ {x : Exchange},
          x.tasks[n]? = some (.watch a.session (.watching a.generation a.channel)) →
            .watching a.session a.generation a.channel ∈ x.tasks.filterMap Task.post :=
        fun hx => List.mem_filterMap.2 ⟨_, List.mem_of_getElem? hx, rfl⟩
      have hchannel := hwired.channel_eq (hpost htask)
      obtain ⟨t', c', new, hmove, hstep⟩ := step_moves ht hears
      have hperm := perm_eraseIdx ht
      have hslot : c'.slot a.session.id = s.connector.slot a.session.id := by
        refine (((hkept.perm hperm).taking (hregular.orderly.perm hperm) _ signal).slot_of_watched
          (w := ⟨a.generation, a.channel⟩) ?_ hmove fun session channel hwatch => hm ?_).trans ?_
        · rw [Connector.slot_taking, h.current.watcher]
        · -- the two watches have one generation, so that they have one channel
          obtain ⟨b, hb, -, hbgeneration, hbchannel⟩ := hregular.wired.watching session a.generation
            channel (List.mem_filterMap.2 ⟨_, List.mem_of_getElem? ht, by rw [hwatch]; rfl⟩)
          obtain ⟨b', hb', -, hgeneration, hchannel'⟩ :=
            hregular.wired.watching _ _ _ (hpost h.current.task)
          obtain rfl := eq_of_generation hregular.wired hb hb' (hbgeneration.trans hgeneration.symm)
          exact hregular.wired.eq_of_channel (p := .watching session a.generation channel) ht
            h.current.task (by rw [hwatch]; rfl) rfl (hbchannel.symm.trans hchannel')
        · rw [Connector.slot_taking]
      have hbefore := hregular.wired.channel_eq (hpost h.current.task)
      rw [hstep] at htask hchannel ⊢
      refine ⟨⟨htask, ?_, ?_⟩, ?_⟩
      · exact hslot ▸ h.current.connection
      · exact hslot ▸ h.current.watcher
      · exact (congrArg (·.next.1) (hchannel.trans hbefore.symm)).trans h.report

/-- A report is due until the watch has its turn with it. -/
theorem step (h : s.Due n a d) (hregular : s.Regular)
    (hkept : Kept a.session.id s.connector s.tasks) (hprompt : s.prompt e = true) :
    (s.step e).Due n a d ∨ e = .resume n (.reported d) := by
  have hinside := h.not_outward hprompt
  cases e with
  | resume m signal =>
    by_cases hm : m = n
    · subst hm
      cases hears : s.connector.hears (.watch a.session (.watching a.generation a.channel)) signal with
      | false =>
        rw [step_resume_unheard h.current.task hears]
        exact .inl h
      | true => exact .inr (by rw [h.eq_of_hears hregular.manned hears])
    · exact .inl (h.other hregular hkept hm)
  | _ => exact absurd ⟨rfl, rfl⟩ hinside

/-- In a prompt run a report is due until its watch reads it, and nothing comes from outside
before that. -/
theorem due_or_read {params : SerialParams} (h : s.Due n a d) (htidy : s.Tidy a.session.id)
    (htarget : a.session.target = .serial params) (hsmooth : s.smooth a.session.id es = true) :
    ((s.run es).Due n a d ∧ ¬s.Happens es Outward) ∨
      ∃ mid after, es = mid ++ .resume n (.reported d) :: after ∧ (s.run mid).Due n a d ∧
        ¬s.Happens mid Outward := by
  induction es using List.reverseRecOn with
  | nil => exact .inl ⟨h, not_happens_nil⟩
  | append_singleton es e ih =>
    obtain ⟨hbefore, hlast⟩ := smooth_append.1 hsmooth
    obtain ⟨hprompt, -⟩ := smooth_cons.1 hlast
    obtain ⟨hdue, hinside⟩ | ⟨mid, after, rfl, hread⟩ := ih hbefore
    · have htidy' := tidy_run htidy hbefore
      obtain hstep | rfl := hdue.step htidy'.regular
        (htidy'.kept_of_watch hdue.current.task htarget) hprompt
      · refine .inl ⟨by rwa [run_concat], fun houtward => ?_⟩
        exact (happens_concat.1 houtward).elim hinside (hdue.not_outward hprompt)
      · exact .inr ⟨es, [], rfl, hdue, hinside⟩
    · exact .inr ⟨mid, after ++ [e], by simp, hread⟩

end Due

/-- The first report into the channel of the watcher of a session is due for a watch. -/
theorem due_of_report {session : Session} {w : Watcher} (h : s.Regular)
    (hsession : session ∈ s.sessions) (hw : (s.connector.slot session.id).watcher = some w)
    (hreport : (s.connector.channel w.channel).next.1 = .report d) :
    ∃ n a, a.session = session ∧ s.Due n a d := by
  obtain ⟨-, session', hid, hmem⟩ := h.manned.watched session.id w hw
  obtain rfl : session' = session :=
    h.listed.distinct _ (h.listed.served _ hmem _ rfl) _ hsession hid
  obtain ⟨n, hn⟩ := List.mem_iff_getElem?.1 hmem
  obtain ⟨a, -, hsession', -, hchannel, hcurrent⟩ := current_of_generation h.wired hn hw rfl
  exact ⟨n, a, hsession', hcurrent, by rwa [hchannel]⟩

end Exchange

end Multiplexer
