import Mathlib.Data.List.Nodup
import Mathlib.Data.List.Perm.Basic
import Multiplexer.Proofs.Connector.Exchange

/-!
# Wiring

Which task has which channel. A channel is made for one attempt and goes over to
the watch of the connection that the attempt makes; it is never shared, and as
long as a task has it nobody else has read from it. The watcher of a session goes
with the connection that the session holds.
-/

namespace Multiplexer

open TurnM

/-- What a task has a channel for. -/
inductive Post where
  /-- The connection is still being made. -/
  | seeking (channel : ChannelId)
  | watching (session : Session) (generation : Nat) (channel : ChannelId)
  deriving DecidableEq

def Post.channel : Post → ChannelId
  | .seeking channel => channel
  | .watching _ _ channel => channel

@[simp] theorem Post.channel_seeking (channel : ChannelId) :
    (Post.seeking channel).channel = channel := rfl

@[simp] theorem Post.channel_watching (session : Session) (generation : Nat) (channel : ChannelId) :
    (Post.watching session generation channel).channel = channel := rfl

def Task.post : Task → Option Post
  | .attempt a stage => if stage.mode = .flying then some (.seeking a.channel) else none
  | .watch _ (.reopening _ _ _ channel) => some (.seeking channel)
  | .watch session (.watching generation channel) => some (.watching session generation channel)
  | _ => none

namespace Connector

variable (c : Connector) (id : SessionId)

@[simp] theorem nextGeneration_stopWatcher :
    (c.stopWatcher id).nextGeneration = c.nextGeneration := by
  unfold stopWatcher; split <;> rfl

@[simp] theorem nextGeneration_released :
    (c.released id).nextGeneration = c.nextGeneration := by
  unfold released; split <;> exact c.nextGeneration_stopWatcher id

@[simp] theorem channels_joined (session : Session) (connection : Connection)
    (channel : ChannelId) : (c.joined session connection channel).channels = c.channels := by
  unfold joined attached putWatcher
  simp only [channels_stopWatcher]
  rfl

@[simp] theorem nextGeneration_joined (session : Session) (connection : Connection)
    (channel : ChannelId) :
    (c.joined session connection channel).nextGeneration = c.nextGeneration + 1 := rfl

@[simp] theorem channels_paused (session : Session) (drop : Drop) (step : Reopener.Step) :
    (c.paused session drop step).channels = c.channels := by
  unfold paused; dsimp only; split <;> rfl

@[simp] theorem nextGeneration_paused (session : Session) (drop : Drop) (step : Reopener.Step) :
    (c.paused session drop step).nextGeneration = c.nextGeneration := by
  unfold paused; dsimp only; split <;> rfl

@[simp] theorem slot_paused (session : Session) (drop : Drop) (step : Reopener.Step) :
    (c.paused session drop step).slot = c.slot := by
  unfold paused; dsimp only; split <;> rfl

@[simp] theorem slot_released (i : SessionId) : (c.released id).slot i =
    if i = id then { c.slot id with connection := none, watcher := none } else c.slot i := by
  unfold released
  split
  · by_cases hi : i = id <;> simp [hi]
  · next hnone =>
    have hconnection : (c.slot id).connection = none := hnone
    by_cases hi : i = id <;> simp [hi, hconnection]

theorem channels_unread_setChannel (channel : ChannelId) (ch : Channel) :
    ((c.setChannel channel ch).unread channel).channels =
      c.channels.set channel.number ((c.setChannel channel ch).channel channel).dropReader :=
  List.set_set ..

/-- No session has got a watcher, and one that still has its watcher has its connection too. -/
def Steadier (c d : Connector) : Prop :=
  ∀ id w, (d.slot id).watcher = some w →
    (c.slot id).watcher = some w ∧ (d.slot id).connection = (c.slot id).connection

variable {c}

theorem Steadier.refl : c.Steadier c := fun _ _ h => ⟨h, rfl⟩

theorem Steadier.of_slot {d : Connector} (h : d.slot = c.slot) : c.Steadier d :=
  fun id w hw => by rw [h] at hw ⊢; exact ⟨hw, rfl⟩

theorem Steadier.setState (state : SessionState) : c.Steadier (c.setState id state) := by
  intro i w hw
  by_cases hi : i = id
  · subst hi
    simpa using hw
  · simpa [hi] using hw

theorem Steadier.severed : c.Steadier (c.severed id) := by
  intro i w hw
  unfold Connector.severed at hw ⊢
  by_cases hi : i = id <;> simp_all

theorem Steadier.released : c.Steadier (c.released id) := by
  intro i w hw
  by_cases hi : i = id <;> simp_all

/-- Two steady turns are steady together. -/
theorem Steadier.trans {d e : Connector} (h : c.Steadier d) (h' : d.Steadier e) : c.Steadier e :=
  fun id w hw => ⟨(h id w (h' id w hw).1).1, (h' id w hw).2.trans (h id w (h' id w hw).1).2⟩

end Connector

/-- What a turn does to the wiring: to the channel of the task, to the channels and the watchers,
to the tasks, and whether a drop is handled. -/
inductive Wire (c : Connector) :
    Option Post → Option Post → Connector → List Task → Option Handling → Prop where
  | keep (p p' : Option Post) (c' : Connector) : p' = none ∨ p' = p → c'.channels = c.channels →
    c'.nextGeneration = c.nextGeneration → c.Steadier c' → Wire c p p' c' [] none
  | join (session : Session) (connection : Connection) (channel : ChannelId) (c₁ : Connector) :
    c₁.channels = c.channels → c₁.nextGeneration = c.nextGeneration → c₁.slot = c.slot →
    Wire c (some (.seeking channel)) none (c₁.joined session connection channel)
      (c.starting session channel) none
  | read (session : Session) (generation : Nat) (channel : ChannelId) (d : Drop) (ch : Channel)
    (c' : Connector) (h : Option Handling) : (c.channel channel).next.1 = .report d →
    h = none ∨ h = some ⟨session, generation, channel, d⟩ →
    c'.channels = c.channels.set channel.number ch → c'.nextGeneration = c.nextGeneration →
    c.Steadier c' → Wire c (some (.watching session generation channel)) none c' [] h
  | claim (c' : Connector) : c'.channels = c.channels ++ [({} : Channel)] →
    c'.nextGeneration = c.nextGeneration → c.Steadier c' →
    Wire c none (some (.seeking ⟨c.channels.length⟩)) c' [] none

/-- A watch hears the report that is next in its channel. -/
theorem Connector.next_of_hears {c : Connector} {session : Session} {generation : Nat}
    {channel : ChannelId} {d : Drop}
    (h : c.hears (.watch session (.watching generation channel)) (.reported d) = true) :
    (c.channel channel).next.1 = .report d :=
  beq_iff_eq.1 h

theorem Connector.taking_of_not_awaits {c : Connector} {t : Task} {s : Signal}
    (h : t.awaits s = false) : c.taking t s = c := by
  unfold Connector.taking
  split
  · simp [Task.awaits] at h
  · rfl

/-- A pause leaves the channels, the generations and the watchers alone. -/
theorem Pauses.steadier {c c₁ : Connector} {session : Session} {stage : WatchStage} {s : Signal}
    {drop : Drop} {step : Reopener.Step} (h : Pauses session c stage s drop c₁ step) :
    c₁.channels = c.channels ∧ c₁.nextGeneration = c.nextGeneration ∧ c.Steadier c₁ := by
  cases h with
  | dropped | refused => exact ⟨rfl, rfl, .setState _ _⟩
  | calledOff | succeeded | forgotten | overtaken => exact ⟨rfl, rfl, .refl⟩

theorem Pauses.taking {c c₁ d : Connector} {session : Session} {stage : WatchStage} {s : Signal}
    {drop : Drop} {step : Reopener.Step} (h : Pauses session c stage s drop c₁ step) :
    d.taking (.watch session stage) s = d := by
  cases h <;> rfl

@[simp] theorem post_task (pause : ReopenPause) (session : Session) (drop : Drop) :
    (pause.task session drop).post = none := by
  cases pause <;> rfl

@[simp] theorem handling_task (pause : ReopenPause) (session session' : Session) (drop : Drop)
    (stage : WatchStage) :
    handling (.watch session stage) (pause.task session' drop) = none := by
  cases pause <;> cases stage <;> rfl

/-- A turn that leaves the channels and the generations alone. -/
theorem Wire.of_steadier {c c' : Connector} {t t' : Task}
    (hpost : t'.post = none ∨ t'.post = t.post) (hhandling : handling t t' = none)
    (hchannels : c'.channels = c.channels) (hgeneration : c'.nextGeneration = c.nextGeneration)
    (h : c.Steadier c') : Wire c t.post t'.post c' [] (handling t t') :=
  hhandling ▸ .keep _ _ _ hpost hchannels hgeneration h

/-- A turn that leaves all of the connector alone. -/
theorem Wire.same {c : Connector} {t t' : Task} (hpost : t'.post = none ∨ t'.post = t.post)
    (hhandling : handling t t' = none) : Wire c t.post t'.post c [] (handling t t') :=
  .of_steadier hpost hhandling rfl rfl .refl

theorem handling_self (t : Task) : handling t t = none := by
  cases t with
  | watch session stage => cases stage <;> rfl
  | _ => rfl

theorem post_attempt {a : Attempt} {stage : AttemptStage} (h : stage.mode = .flying) :
    (Task.attempt a stage).post = some (.seeking a.channel) := if_pos h

/-- What a move does to the wiring. -/
theorem Move.wire {c : Connector} {t t' : Task} {s : Signal} {c' : Connector} {new : List Task}
    (h : Move (c.taking t s) t s t' c' new) (hears : c.hears t s = true) :
    Wire c t.post t'.post c' new (handling t t') := by
  generalize htaken : c.taking t s = taken at h
  cases h with
  | stay _ _ hawaits =>
    rw [Connector.taking_of_not_awaits hawaits] at htaken
    subst htaken
    exact .same (.inr rfl) (handling_self t)
  | release =>
    obtain rfl : c = _ := htaken
    exact .same (.inr rfl) rfl
  | note | stop =>
    obtain rfl : c = _ := htaken
    exact .same (.inl rfl) rfl
  | complete | giveUp =>
    obtain rfl : c = _ := htaken
    exact .of_steadier (.inl rfl) rfl rfl rfl .refl
  | discard todo r t' ht =>
    obtain rfl : c = _ := htaken
    rcases ht with rfl | rfl <;> exact .same (.inl rfl) rfl
  | goOn a stage stage' s hssh hstage hstage' =>
    obtain rfl : c = _ := htaken
    have hpost := post_attempt (a := a) (AttemptStage.flying_of_routed hstage')
    exact .same (.inr (hpost.trans (post_attempt hstage).symm)) rfl
  | dial =>
    obtain rfl : c = _ := htaken
    exact .of_steadier (.inr rfl) rfl rfl rfl .refl
  | fail =>
    obtain rfl : c = _ := htaken
    exact .of_steadier (.inl rfl) rfl rfl rfl (.setState _ _)
  | connect a run s connection =>
    obtain rfl : c = _ := htaken
    exact .join a.session connection a.channel c rfl rfl rfl
  | «open» a params terminal =>
    obtain rfl : c = _ := htaken
    exact .join a.session (.bare terminal) a.channel (c.rearmed a.session.id params) rfl rfl rfl
  | reopen session drop l params channel terminal =>
    obtain rfl : c = _ := htaken
    exact .join session (.bare terminal) channel c rfl rfl rfl
  | ignore session generation channel d hstale =>
    obtain rfl := htaken
    exact .read session generation channel d _ _ _ (Connector.next_of_hears hears) (.inl rfl)
      (Connector.channels_unread_setChannel _ _ _) rfl (.of_slot rfl)
  | drop session channel d w hw =>
    obtain rfl := htaken
    exact .read session w.generation channel d _ _ _ (Connector.next_of_hears hears) (.inr rfl)
      (Connector.channels_unread_setChannel _ _ _) rfl (.severed _)
  | close | lose | disconnecting | destroying =>
    obtain rfl : c = _ := htaken
    exact .of_steadier (.inl rfl) rfl rfl rfl .refl
  | destroyed =>
    obtain rfl : c = _ := htaken
    exact .of_steadier (.inl rfl) rfl rfl rfl .refl
  | report | disconnected =>
    obtain rfl : c = _ := htaken
    exact .of_steadier (.inl rfl) rfl rfl rfl (.setState _ _)
  | pause session stage s drop c₁ step hpauses =>
    rw [hpauses.taking] at htaken
    subst htaken
    obtain ⟨hchannels, hgeneration, hsteadier⟩ := hpauses.steadier
    refine .of_steadier (.inl (post_task _ _ _)) (handling_task _ _ _ _ _) ?_ ?_ ?_
    · rw [Connector.channels_paused, hchannels]
    · rw [Connector.nextGeneration_paused, hgeneration]
    · exact hsteadier.trans (.of_slot (Connector.slot_paused _ _ _ _))
  | claim session drop l params hparams hregistered hstate =>
    obtain rfl : c = _ := htaken
    exact .claim _ rfl rfl (.setState _ _)

def Ledger.reports (k : Ledger) (channel : ChannelId) : List Drop :=
  (k.published.filter fun x => x.1 = channel).map (·.2)

/-- The wiring is in order, given the channels that the tasks have. -/
structure Wired (c : Connector) (posts : List Post) (k : Ledger) : Prop where
  sent : ∀ x ∈ k.published, x.1.number < c.channels.length
  distinct : (posts.map Post.channel).Nodup
  /-- Nobody has read from the channel of a task. -/
  untouched : ∀ p ∈ posts, c.channels[p.channel.number]? = some { queue := k.reports p.channel }
  seeking : ∀ channel, Post.seeking channel ∈ posts → ∀ a ∈ k.attached, a.channel ≠ channel
  watching : ∀ session generation channel, Post.watching session generation channel ∈ posts →
    ∃ a ∈ k.attached, a.session = session ∧ a.generation = generation ∧ a.channel = channel
  current : ∀ id w, (c.slot id).watcher = some w →
    ∃ a ∈ k.attached, a.session.id = id ∧ a.generation = w.generation ∧ a.channel = w.channel ∧
      (c.slot id).connection = some a.connection
  issued : ∀ a ∈ k.attached,
    a.generation < c.nextGeneration ∧ a.channel.number < c.channels.length
  generations : (k.attached.map (·.generation)).Nodup
  channels : (k.attached.map (·.channel)).Nodup
  handled : ∀ h ∈ k.handled, ∃ a ∈ k.attached,
    a.session = h.session ∧ a.generation = h.generation ∧ a.channel = h.channel
  once : (k.handled.map (·.channel)).Nodup
  /-- No task has the channel of a drop that was handled. -/
  spent : ∀ h ∈ k.handled, ∀ p ∈ posts, p.channel ≠ h.channel
  first : ∀ h ∈ k.handled, (k.reports h.channel).head? = some h.drop

namespace Wired

variable {c c' : Connector} {p : Post} {posts posts' : List Post} {k : Ledger}

theorem perm (h : Wired c posts k) (hperm : posts.Perm posts') : Wired c posts' k where
  sent := h.sent
  distinct := (hperm.map _).nodup_iff.1 h.distinct
  untouched p hp := h.untouched p (hperm.mem_iff.2 hp)
  seeking channel hc := h.seeking channel (hperm.mem_iff.2 hc)
  watching session generation channel hw :=
    h.watching session generation channel (hperm.mem_iff.2 hw)
  current := h.current
  issued := h.issued
  generations := h.generations
  channels := h.channels
  handled := h.handled
  once := h.once
  spent handling hh p hp := h.spent handling hh p (hperm.mem_iff.2 hp)
  first := h.first

/-- A steady turn keeps the wiring in order. -/
theorem keep (h : Wired c posts k) (hchannels : c'.channels = c.channels)
    (hgeneration : c'.nextGeneration = c.nextGeneration) (hsteadier : c.Steadier c') :
    Wired c' posts k where
  sent := hchannels ▸ h.sent
  distinct := h.distinct
  untouched := hchannels ▸ h.untouched
  seeking := h.seeking
  watching := h.watching
  current id w hw := by
    obtain ⟨hold, hconnection⟩ := hsteadier id w hw
    rw [hconnection]
    exact h.current id w hold
  issued := hchannels ▸ hgeneration ▸ h.issued
  generations := h.generations
  channels := h.channels
  handled := h.handled
  once := h.once
  spent := h.spent
  first := h.first

theorem leave (h : Wired c (p :: posts) k) : Wired c posts k where
  sent := h.sent
  distinct := (List.nodup_cons.1 h.distinct).2
  untouched p hp := h.untouched p (List.mem_cons_of_mem _ hp)
  seeking channel hc := h.seeking channel (List.mem_cons_of_mem _ hc)
  watching session generation channel hw :=
    h.watching session generation channel (List.mem_cons_of_mem _ hw)
  current := h.current
  issued := h.issued
  generations := h.generations
  channels := h.channels
  handled := h.handled
  once := h.once
  spent handling hh p hp := h.spent handling hh p (List.mem_cons_of_mem _ hp)
  first := h.first

theorem bound (h : Wired c posts k) (hp : p ∈ posts) : p.channel.number < c.channels.length :=
  (List.getElem?_eq_some_iff.1 (h.untouched p hp)).1

/-- A new channel is nobody's yet, and nothing was published into it. -/
theorem seek (h : Wired c posts k) (hchannels : c'.channels = c.channels ++ [({} : Channel)])
    (hgeneration : c'.nextGeneration = c.nextGeneration) (hsteadier : c.Steadier c') :
    Wired c' (.seeking ⟨c.channels.length⟩ :: posts) k := by
  have hlength : c'.channels.length = c.channels.length + 1 := by simp [hchannels]
  have hkept : Wired { c' with channels := c.channels } posts k :=
    h.keep rfl hgeneration hsteadier
  have hreports : k.reports ⟨c.channels.length⟩ = [] := by
    simp only [Ledger.reports, List.map_eq_nil_iff, List.filter_eq_nil_iff, decide_eq_true_eq]
    intro x hx heq
    have hbound := h.sent x hx
    simp [heq] at hbound
  exact {
    sent := fun x hx => by have hx' := h.sent x hx; omega
    distinct := by
      refine List.nodup_cons.2 ⟨fun hmem => ?_, h.distinct⟩
      obtain ⟨p, hp, heq⟩ := List.mem_map.1 hmem
      have hbound := h.bound hp
      simp [heq] at hbound
    untouched := by
      intro p hp
      obtain rfl | hp := List.mem_cons.1 hp
      · simp [hchannels, hreports]
      · rw [hchannels, List.getElem?_append_left (h.bound hp)]
        exact h.untouched p hp
    seeking := by
      intro channel hc a ha heq
      obtain hc | hc := List.mem_cons.1 hc
      · have hbound := (h.issued a ha).2
        obtain rfl : channel = ⟨c.channels.length⟩ := by simpa using hc
        simp [heq] at hbound
      · exact h.seeking channel hc a ha heq
    watching := by
      intro session generation channel hw
      exact h.watching session generation channel (by simpa using hw)
    current := hkept.current
    issued := fun a ha => ⟨(hkept.issued a ha).1, by have ha' := (h.issued a ha).2; omega⟩
    generations := h.generations
    channels := h.channels
    handled := h.handled
    once := h.once
    spent := by
      intro handling hh p hp heq
      obtain rfl | hp := List.mem_cons.1 hp
      · obtain ⟨a, ha, -, -, hchannel⟩ := h.handled handling hh
        have hbound := (h.issued a ha).2
        simp [hchannel, ← heq] at hbound
      · exact h.spent handling hh p hp heq
    first := h.first }

/-- A connection is attached: its channel goes over to the watch. -/
theorem join {channel : ChannelId} (h : Wired c (.seeking channel :: posts) k)
    (session : Session) (connection : Connection) :
    Wired (c.joined session connection channel)
      (.watching session c.nextGeneration channel :: posts)
      { k with attached := k.attached ++ [⟨session, c.nextGeneration, channel, connection⟩] } := by
  have hchannels := c.channels_joined session connection channel
  exact {
    sent := hchannels ▸ h.sent
    distinct := h.distinct
    untouched := by
      intro p hp
      rw [hchannels]
      obtain rfl | hp := List.mem_cons.1 hp
      · exact h.untouched (.seeking channel) List.mem_cons_self
      · exact h.untouched p (List.mem_cons_of_mem _ hp)
    seeking := by
      intro channel' hc a ha heq
      have hc : Post.seeking channel' ∈ posts := by simpa using hc
      obtain ha | ha := List.mem_append.1 ha
      · exact h.seeking channel' (List.mem_cons_of_mem _ hc) a ha heq
      · obtain rfl := List.mem_singleton.1 ha
        exact (List.nodup_cons.1 h.distinct).1
          (List.mem_map.2 ⟨_, hc, by simpa using heq.symm⟩)
    watching := by
      intro session' generation channel' hw
      obtain hw | hw := List.mem_cons.1 hw
      · cases hw
        exact ⟨_, List.mem_append_right _ (List.mem_singleton.2 rfl), rfl, rfl, rfl⟩
      · obtain ⟨a, ha, hfields⟩ :=
          h.watching session' generation channel' (List.mem_cons_of_mem _ hw)
        exact ⟨a, List.mem_append_left _ ha, hfields⟩
    current := by
      intro id w hw
      by_cases hid : id = session.id
      · subst hid
        obtain rfl : w = ⟨c.nextGeneration, channel⟩ := by
          simpa [Connector.joined, eq_comm] using hw
        exact ⟨_, List.mem_append_right _ (List.mem_singleton.2 rfl), rfl, rfl, rfl,
          by simp [Connector.joined]⟩
      · have hslot : (c.joined session connection channel).slot id = c.slot id := by
          simp [Connector.joined, hid]
        rw [hslot] at hw ⊢
        obtain ⟨a, ha, hfields⟩ := h.current id w hw
        exact ⟨a, List.mem_append_left _ ha, hfields⟩
    issued := by
      intro a ha
      rw [hchannels, Connector.nextGeneration_joined]
      obtain ha | ha := List.mem_append.1 ha
      · have ha' := h.issued a ha
        exact ⟨by omega, ha'.2⟩
      · obtain rfl := List.mem_singleton.1 ha
        exact ⟨Nat.lt_succ_self _, h.bound List.mem_cons_self⟩
    generations := by
      rw [List.map_append, List.map_singleton, ← List.concat_eq_append]
      refine h.generations.concat fun hmem => ?_
      obtain ⟨a, ha, heq⟩ := List.mem_map.1 hmem
      exact absurd (h.issued a ha).1 (by simp [heq])
    channels := by
      rw [List.map_append, List.map_singleton, ← List.concat_eq_append]
      refine h.channels.concat fun hmem => ?_
      obtain ⟨a, ha, heq⟩ := List.mem_map.1 hmem
      exact h.seeking channel List.mem_cons_self a ha heq
    handled := fun handling hh => by
      obtain ⟨a, ha, hfields⟩ := h.handled handling hh
      exact ⟨a, List.mem_append_left _ ha, hfields⟩
    once := h.once
    spent := by
      intro handling hh p hp
      obtain rfl | hp := List.mem_cons.1 hp
      · exact h.spent handling hh (.seeking channel) List.mem_cons_self
      · exact h.spent handling hh p (List.mem_cons_of_mem _ hp)
    first := h.first }

/-- The channel of a task holds all that was published into it. -/
theorem channel_eq (h : Wired c posts k) (hp : p ∈ posts) :
    c.channel p.channel = { queue := k.reports p.channel } := by
  rw [Connector.channel, List.getD_eq_getElem?_getD, h.untouched p hp]
  rfl

/-- What is read first from the channel of a task is the first report published into it. -/
theorem first_of_next {d : Drop} (h : Wired c (p :: posts) k)
    (hnext : (c.channel p.channel).next.1 = .report d) : (k.reports p.channel).head? = some d := by
  rw [h.channel_eq List.mem_cons_self] at hnext
  cases hreports : k.reports p.channel with
  | nil => simp [hreports, Channel.next] at hnext
  | cons d' rest =>
    obtain rfl : d' = d := by simpa [hreports, Channel.next, Latch.trip] using hnext
    rfl

/-- A watch has read its report. -/
theorem read {session : Session} {generation : Nat} {channel : ChannelId} {d : Drop}
    {ch : Channel} {handling : Option Handling}
    (h : Wired c (.watching session generation channel :: posts) k)
    (hnext : (c.channel channel).next.1 = .report d)
    (hhandling : handling = none ∨ handling = some ⟨session, generation, channel, d⟩)
    (hchannels : c'.channels = c.channels.set channel.number ch)
    (hgeneration : c'.nextGeneration = c.nextGeneration) (hsteadier : c.Steadier c') :
    Wired c' posts { k with handled := k.handled ++ handling.toList } := by
  have hlength : c'.channels.length = c.channels.length := by simp [hchannels]
  have hkept : Wired { c' with channels := c.channels } posts k :=
    h.leave.keep rfl hgeneration hsteadier
  have hapart : ∀ p ∈ posts, p.channel ≠ channel := fun p hp heq =>
    (List.nodup_cons.1 h.distinct).1 (List.mem_map.2 ⟨p, hp, heq⟩)
  have hwired : Wired c' posts k :=
    { hkept with
      sent := hlength ▸ hkept.sent
      untouched := by
        intro p hp
        have hne : channel.number ≠ p.channel.number := fun heq =>
          hapart p hp (by cases hp' : p.channel; cases channel; simp_all)
        rw [hchannels, List.getElem?_set_ne hne]
        exact hkept.untouched p hp
      issued := hlength ▸ hkept.issued }
  obtain rfl | rfl := hhandling
  · simpa using hwired
  · refine { hwired with handled := ?_, once := ?_, spent := ?_, first := ?_ }
    · intro handling hh
      obtain hh | hh := List.mem_append.1 hh
      · exact hwired.handled handling hh
      · obtain rfl : handling = _ := by simpa using hh
        exact h.watching session generation channel List.mem_cons_self
    · simp only [Option.toList_some, List.map_append, List.map_singleton]
      rw [← List.concat_eq_append]
      refine hwired.once.concat fun hmem => ?_
      obtain ⟨handling, hh, heq⟩ := List.mem_map.1 hmem
      exact h.spent handling hh _ List.mem_cons_self heq.symm
    · intro handling hh p hp
      obtain hh | hh := List.mem_append.1 hh
      · exact hwired.spent handling hh p hp
      · obtain rfl : handling = _ := by simpa using hh
        exact hapart p hp
    · intro handling hh
      obtain hh | hh := List.mem_append.1 hh
      · exact hwired.first handling hh
      · obtain rfl : handling = _ := by simpa using hh
        exact h.first_of_next hnext

theorem reports_publish (k : Ledger) (channel i : ChannelId) (d : Drop) :
    Ledger.reports { k with published := k.published ++ [(channel, d)] } i =
      if i = channel then k.reports i ++ [d] else k.reports i := by
  by_cases hi : i = channel
  · simp [Ledger.reports, hi]
  · simp [Ledger.reports, hi, Ne.symm hi]

/-- A report that comes in keeps the wiring in order. -/
theorem publish (h : Wired c posts k) {channel : ChannelId}
    (hbound : channel.number < c.channels.length) (d : Drop) :
    Wired (c.publish channel d) posts
      { k with published := k.published ++ [(channel, d)] } := by
  have hchannels : (c.publish channel d).channels =
      c.channels.set channel.number ((c.channel channel).publish d) := rfl
  have hlength : (c.publish channel d).channels.length = c.channels.length := by simp [hchannels]
  refine { h with sent := ?_, untouched := ?_, issued := ?_, first := ?_ }
  · intro x hx
    rw [hlength]
    obtain hx | hx := List.mem_append.1 hx
    · exact h.sent x hx
    · obtain rfl := List.mem_singleton.1 hx
      exact hbound
  · intro p hp
    rw [hchannels, reports_publish]
    have hold := h.untouched p hp
    by_cases hi : p.channel = channel
    · subst hi
      rw [List.getElem?_set_self hbound, h.channel_eq hp, if_pos rfl]
      rfl
    · have hne : channel.number ≠ p.channel.number := fun heq =>
        hi (by cases hp' : p.channel; cases channel; simp_all)
      rw [List.getElem?_set_ne hne, if_neg hi]
      exact hold
  · rw [hlength]
    exact h.issued
  · intro handling hh
    have hfirst := h.first handling hh
    rw [reports_publish]
    split
    · rw [List.head?_append, hfirst]
      rfl
    · exact hfirst

/-- A turn keeps the wiring in order. -/
theorem wire {p p' : Option Post} {new : List Task} {handling : Option Handling}
    (h : Wired c (p.toList ++ posts) k) (hw : Wire c p p' c' new handling) :
    Wired c' (p'.toList ++ (new.filterMap Task.post ++ posts))
      { k with
        attached := k.attached ++ attachments ⟨c', new⟩
        handled := k.handled ++ handling.toList } := by
  cases hw with
  | keep _ _ _ hpost hchannels hgeneration hsteadier =>
    have hkept := h.keep hchannels hgeneration hsteadier
    obtain rfl | rfl := hpost
    · cases p with
      | none => simpa [attachments] using hkept
      | some p => simpa [attachments] using hkept.leave
    · simpa [attachments] using hkept
  | join session connection channel c₁ hchannels hgeneration hslot =>
    have hjoined := (h.keep hchannels hgeneration (.of_slot hslot)).join session connection
    have hstarting : (c.starting session channel).filterMap Task.post =
        [.watching session c.nextGeneration channel] := by
      unfold Connector.starting Connector.superseded
      split <;> rfl
    have hslot' : ((c₁.joined session connection channel).slot session.id).connection =
        some connection := by simp [Connector.joined]
    have hstatus : ((c₁.joined session connection channel).status session.id).connection =
        some connection := hslot'
    have hattachments : attachments ⟨c₁.joined session connection channel,
        c.starting session channel⟩ = [⟨session, c.nextGeneration, channel, connection⟩] := by
      unfold attachments Connector.starting Connector.superseded
      split <;> simp [hstatus]
    rw [hstarting, hattachments]
    simpa [hgeneration] using hjoined
  | read session generation channel d ch c' handling hnext hhandling hchannels hgeneration hsteadier =>
    simpa [attachments] using Wired.read h hnext hhandling hchannels hgeneration hsteadier
  | claim c' hchannels hgeneration hsteadier =>
    simpa [attachments] using h.seek hchannels hgeneration hsteadier

end Wired

namespace Exchange

def Sound (s : Exchange) : Prop := Wired s.connector (s.tasks.filterMap Task.post) s.ledger

variable {s : Exchange}

/-- The first turn of a new task, which is as a turn of the given task on the given connector. -/
theorem sound_engage {m : TurnM Task} {c : Connector} {t : Task} {signal : Signal}
    (hmoves : Moves t signal ⟨c, []⟩ (exec m ⟨s.connector, []⟩))
    (hears : c.hears t signal = true) (htaking : c.taking t signal = c)
    (hhandling : ∀ t', handling t t' = none)
    (h : Wired c (t.post.toList ++ s.tasks.filterMap Task.post) s.ledger) :
    (s.engage m).Sound := by
  obtain ⟨t', c', new, hexec, hmove⟩ := hmoves
  have hwired := h.wire ((htaking.symm ▸ hmove : Move (c.taking t signal) t signal t' c' new).wire
    hears)
  rw [hhandling] at hwired
  rw [engage_eq hexec]
  refine Wired.perm (by simpa using hwired) ?_
  have hposts : (s.tasks ++ t' :: new).filterMap Task.post =
      s.tasks.filterMap Task.post ++ (t'.post.toList ++ new.filterMap Task.post) := by
    cases hpost : t'.post <;> simp [hpost]
  change List.Perm _ ((s.tasks ++ t' :: new).filterMap Task.post)
  rw [hposts, ← List.append_assoc]
  exact List.perm_append_comm

section Tasks

variable {n : Nat} {t : Task}

theorem perm_eraseIdx (ht : s.tasks[n]? = some t) : s.tasks.Perm (t :: s.tasks.eraseIdx n) := by
  obtain ⟨hn, rfl⟩ := List.getElem?_eq_some_iff.1 ht
  exact (List.getElem_cons_eraseIdx_perm hn).symm

theorem perm_set (ht : s.tasks[n]? = some t) (t' : Task) (new : List Task) :
    (s.tasks.set n t' ++ new).Perm (t' :: (new ++ s.tasks.eraseIdx n)) := by
  obtain ⟨hn, -⟩ := List.getElem?_eq_some_iff.1 ht
  refine ((List.set_perm_cons_eraseIdx hn t').append_right new).trans ?_
  have hcomm : (s.tasks.eraseIdx n ++ new).Perm (new ++ s.tasks.eraseIdx n) :=
    List.perm_append_comm
  exact hcomm.cons t'

/-- A turn of a task keeps the wiring in order. -/
theorem sound_resume {signal : Signal} (ht : s.tasks[n]? = some t)
    (hears : s.connector.hears t signal = true) (h : s.Sound) :
    (s.step (.resume n signal)).Sound := by
  obtain ⟨t', c', new, hmove, hstep⟩ := step_moves ht hears
  have hposts : (s.tasks.filterMap Task.post).Perm
      (t.post.toList ++ (s.tasks.eraseIdx n).filterMap Task.post) := by
    have hperm := (perm_eraseIdx ht).filterMap Task.post
    cases hpost : t.post <;> simpa [hpost] using hperm
  have hset : ((s.tasks.set n t' ++ new).filterMap Task.post).Perm
      (t'.post.toList ++ (new.filterMap Task.post ++ (s.tasks.eraseIdx n).filterMap Task.post)) := by
    have hperm := (perm_set ht t' new).filterMap Task.post
    cases hpost : t'.post <;> simpa [hpost] using hperm
  have hwired := (Wired.perm h hposts).wire (hmove.wire hears)
  rw [hstep]
  exact hwired.perm hset.symm

end Tasks

/-- A call that is refused at once. -/
theorem sound_refused {m : TurnM Task} {result : Except ConnectError Unit}
    (hexec : exec m ⟨s.connector, []⟩ = (.over result, ⟨s.connector, []⟩)) (h : s.Sound) :
    (s.engage m).Sound := by
  have hposts : (s.tasks ++ [Task.over result]).filterMap Task.post =
      s.tasks.filterMap Task.post := by
    rw [List.filterMap_append, List.filterMap_cons_none rfl]
    simp
  rw [engage_eq hexec]
  unfold Sound at h ⊢
  rw [hposts]
  simpa [attachments] using h

/-- Every event keeps the wiring in order. -/
theorem sound_step (e : Event) (h : s.Sound) : (s.step e).Sound := by
  cases e with
  | create target =>
    simp only [step]
    split
    · exact Wired.keep h rfl rfl .refl
    · exact h
  | forget | limit | order | policy => exact Wired.keep h rfl rfl .refl
  | cancel token =>
    refine Wired.keep h ?_ ?_ (.of_slot ?_) <;>
    · simp only [step, Connector.cancel]
      split <;> rfl
  | connect session token =>
    simp only [step]
    split
    · by_cases hstate : (s.connector.slot session.id).state = .connecting
      · exact sound_refused (Connector.exec_connect_overlapping session token ⟨s.connector, []⟩ hstate) h
      · refine sound_engage (Connector.moves_connect session token ⟨s.connector, []⟩ hstate) rfl rfl
          (fun _ => rfl) ?_
        have hsteadier : s.connector.Steadier (s.connector.begun session.id) :=
          ((Connector.Steadier.setState _ _).trans (.released _)).trans (.of_slot rfl)
        exact Wired.seek h (by simp [Connector.begun, Connector.newChannel, Connector.setState,
          Connector.setStatus]) (by simp [Connector.begun, Connector.newChannel, Connector.setState,
          Connector.setStatus]) hsteadier
    · exact h
  | disconnect id =>
    cases hregistered : s.connector.registry.contains id with
    | false => exact sound_refused (Connector.exec_disconnect_unknown id ⟨s.connector, []⟩ hregistered) h
    | true =>
      refine sound_engage (Connector.moves_disconnect id ⟨s.connector, []⟩ hregistered) rfl rfl
        (fun _ => rfl) ?_
      exact Wired.keep h (by simp) (by simp) (.trans (.of_slot rfl) (.released id))
  | destroy id =>
    cases hregistered : s.connector.registry.contains id with
    | false => exact sound_refused (Connector.exec_destroy_unknown id ⟨s.connector, []⟩ hregistered) h
    | true =>
      refine sound_engage (Connector.moves_destroy id ⟨s.connector, []⟩ hregistered) rfl rfl
        (fun _ => rfl) ?_
      exact Wired.keep h (by simp) (by simp) (.trans (.of_slot rfl) (.released id))
  | publish channel d =>
    simp only [step]
    split
    · next hbound => exact Wired.publish h hbound d
    · exact h
  | resume n signal =>
    cases ht : s.tasks[n]? with
    | none => simpa [step, ht] using h
    | some t =>
      cases hears : s.connector.hears t signal with
      | false => rwa [step_resume_unheard ht hears]
      | true => exact sound_resume ht hears h

/-- The wiring is in order after every run. -/
theorem sound_run (es : List Event) (h : s.Sound) : (s.run es).Sound := by
  induction es generalizing s with
  | nil => exact h
  | cons e es ih => exact ih (sound_step e h)

theorem sound_start : Sound {} where
  sent := by simp
  distinct := by simp
  untouched := by simp
  seeking := by simp
  watching := by simp
  current := by simp [Connector.slot, Connector.watcher?]
  issued := by simp
  generations := by simp
  channels := by simp
  handled := by simp
  once := by simp
  spent := by simp
  first := by simp

end Exchange

end Multiplexer
