import Multiplexer.Proofs.Json.Encoding
import Multiplexer.Proofs.Settings.Clamping
import Multiplexer.Settings.Store

/-!
# The text of settings

What is written for settings is read back as the same settings, in whatever order
the profiles are written, if its three doubles are read back as they were written.
If one of them is not finite, what is written for it is no double, and the whole
text gives no settings.
-/

namespace Multiplexer

open Json (writable_obj writable_nat writable_str natBelow_nat)

namespace ReopenPolicy

structure InRange (p : ReopenPolicy) : Prop where
  maxAttempts : p.maxAttempts < Nat.pow 2 32
  delayMs : p.delayMs < wordLimit

theorem writable_toJson (p : ReopenPolicy) : p.toJson.Writable :=
  writable_obj (by simp [writable_nat, Json.Writable.bool])

theorem ofJson?_toJson {p : ReopenPolicy} (h : p.InRange) : ofJson? p.toJson = some p := by
  simp [ofJson?, toJson, Json.obj, Json.fields?, Json.namedFields, Json.once, Json.Fields.orDefault,
    Json.Fields.find?, List.lookup_cons, Json.bool?, natBelow_nat h.maxAttempts,
    natBelow_nat h.delayMs]

end ReopenPolicy

namespace TerminalSize

structure InRange (t : TerminalSize) : Prop where
  cols : t.cols < Nat.pow 2 32
  rows : t.rows < Nat.pow 2 32

theorem writable_toJson (t : TerminalSize) : t.toJson.Writable :=
  writable_obj (by simp [writable_nat])

theorem ofJson?_toJson {t : TerminalSize} (h : t.InRange) : ofJson? t.toJson = some t := by
  simp [ofJson?, toJson, Json.obj, Json.fields?, Json.namedFields, Json.once, Json.Fields.required,
    Json.Fields.find?, List.lookup_cons, natBelow_nat h.cols, natBelow_nat h.rows]

end TerminalSize

namespace ConnectSettings

structure InRange (s : ConnectSettings) : Prop where
  timeoutSecs : s.timeoutSecs < wordLimit
  keepaliveIntervalSecs : s.keepaliveIntervalSecs < wordLimit
  keepaliveMax : s.keepaliveMax < wordLimit
  promptTimeoutSecs : s.promptTimeoutSecs < wordLimit
  terminal : s.terminal.InRange

theorem writable_toJson (s : ConnectSettings) : s.toJson.Writable :=
  writable_obj (by simp [writable_nat, s.terminal.writable_toJson])

theorem ofJson?_toJson {s : ConnectSettings} (h : s.InRange) : ofJson? s.toJson = some s := by
  simp [ofJson?, toJson, Json.obj, Json.fields?, Json.namedFields, Json.once, Json.Fields.orDefault,
    Json.Fields.find?, List.lookup_cons, natBelow_nat h.timeoutSecs,
    natBelow_nat h.keepaliveIntervalSecs, natBelow_nat h.keepaliveMax,
    natBelow_nat h.promptTimeoutSecs, TerminalSize.ofJson?_toJson h.terminal]

end ConnectSettings

/-- Whether a double is read as the one that was written. -/
def Binary64.ReadsBack (x : Binary64) : Prop := Json.float? (Json.float x) = some x

namespace LayoutSettings

def values (s : LayoutSettings) : List Binary64 := [s.defaultSplitRatio, s.minRatio, s.maxRatio]

theorem writable_toJson (s : LayoutSettings) : (s.toJson Json.float).Writable :=
  writable_obj (by simp [Json.writable_float])

/-- A layout is read back if its three doubles are. -/
theorem ofJson?_toJson {s : LayoutSettings} (h : ∀ x ∈ s.values, x.ReadsBack) :
    ofJson? (s.toJson Json.float) = some s := by
  obtain ⟨hsplit, hmin, hmax⟩ : s.defaultSplitRatio.ReadsBack ∧ s.minRatio.ReadsBack ∧
      s.maxRatio.ReadsBack := by simpa [values] using h
  unfold Binary64.ReadsBack at hsplit hmin hmax
  simp [ofJson?, toJson, Json.obj, Json.fields?, Json.namedFields, Json.once, Json.Fields.orDefault,
    Json.Fields.find?, List.lookup_cons, hsplit, hmin, hmax]

/-- One double that is not finite makes the layout unreadable. -/
theorem ofJson?_toJson_of_not_finite {s : LayoutSettings} {x : Binary64} (hx : x ∈ s.values)
    (h : x.isFinite = false) : ofJson? (s.toJson Json.float) = none := by
  have hnone := Json.float?_float_of_not_finite h
  simp only [values, List.mem_cons, List.not_mem_nil, or_false] at hx
  rcases hx with rfl | rfl | rfl <;>
    simp [ofJson?, toJson, Json.obj, Json.fields?, Json.namedFields, Json.once,
      Json.Fields.orDefault, Json.Fields.find?, List.lookup_cons, hnone]

end LayoutSettings

namespace JumpHost

theorem writable_toJson (j : JumpHost) : j.toJson.Writable :=
  writable_obj (by simp [writable_nat, writable_str])

theorem ofJson?_toJson {j : JumpHost} (h : j.port < portLimit) : ofJson? j.toJson = some j := by
  simp [ofJson?, toJson, Json.obj, Json.str, Json.fields?, Json.namedFields, Json.once,
    Json.Fields.required, Json.Fields.orDefault, Json.Fields.find?, Json.text?, List.lookup_cons,
    natBelow_nat h]

end JumpHost

namespace Profiles

/-- Whether every profile is under a name of its own, in the order of the names. -/
def Ordered (ps : Profiles) : Prop := List.Pairwise (fun a b => a.1 < b.1) ps

def InRange (ps : Profiles) : Prop := ∀ p ∈ ps, ∀ j ∈ p.2, j.port < portLimit

variable {ps qs : Profiles} {name : String} {jumps : List JumpHost}

theorem writable_toJson (ps : Profiles) : ps.toJson.Writable := by
  refine writable_obj (List.forall_mem_map.2 fun p _ => .array ?_)
  exact List.forall_mem_map.2 fun j _ => j.writable_toJson

/-- A profile under a new name comes to those that are there. -/
theorem insert_perm (hnew : ∀ p ∈ ps, p.1 ≠ name) :
    (insert name jumps ps).Perm ((name, jumps) :: ps) := by
  induction ps with
  | nil => exact .refl _
  | cons p ps ih =>
    obtain ⟨hp, hps⟩ := List.forall_mem_cons.1 hnew
    rw [insert, if_neg hp]
    split_ifs
    · exact .refl _
    · exact ((ih hps).cons p).trans (.swap _ _ _)

/-- A profile under a new name takes its place in the order of the names. -/
theorem Ordered.insert (h : Ordered ps) (hnew : ∀ p ∈ ps, p.1 ≠ name) :
    Ordered (Profiles.insert name jumps ps) := by
  induction ps with
  | nil => exact List.pairwise_singleton _ _
  | cons p ps ih =>
    obtain ⟨hp, hps⟩ := List.forall_mem_cons.1 hnew
    obtain ⟨hfirst, hrest⟩ := List.pairwise_cons.1 h
    rw [Profiles.insert, if_neg hp]
    split_ifs with hlt
    · refine List.pairwise_cons.2 ⟨List.forall_mem_cons.2 ⟨hlt, fun q hq => ?_⟩, h⟩
      exact String.lt_trans hlt (hfirst q hq)
    · refine List.pairwise_cons.2 ⟨fun q hq => ?_, ih hrest hps⟩
      rcases List.mem_cons.1 ((insert_perm hps).mem_iff.1 hq) with rfl | hq
      · by_contra hle
        exact hp (String.le_antisymm (String.not_lt.1 hlt) (String.not_lt.1 hle))
      · exact hfirst q hq

/-- Profiles that come one after the other, each under a name of its own. -/
theorem foldl_insert (qs : Profiles) (h : Ordered ps) (hnodup : ((ps ++ qs).map Prod.fst).Nodup) :
    Ordered (qs.foldl (fun ps q => insert q.1 q.2 ps) ps) ∧
      (qs.foldl (fun ps q => insert q.1 q.2 ps) ps).Perm (ps ++ qs) := by
  induction qs generalizing ps with
  | nil => exact ⟨h, by simp⟩
  | cons q qs ih =>
    have hnew : ∀ p ∈ ps, p.1 ≠ q.1 := by
      intro p hp
      rw [List.map_append, List.nodup_append] at hnodup
      exact hnodup.2.2 _ (List.mem_map_of_mem hp) _ (List.mem_map_of_mem List.mem_cons_self)
    have hperm : (insert q.1 q.2 ps ++ qs).Perm (ps ++ q :: qs) :=
      ((insert_perm hnew).append_right qs).trans List.perm_middle.symm
    obtain ⟨hordered, hfold⟩ := ih (h.insert hnew) ((hperm.map _).nodup_iff.2 hnodup)
    exact ⟨hordered, hfold.trans hperm⟩

/-- The profiles that are written are read one after the other. -/
theorem foldlM_toJson (qs : Profiles) (hrange : InRange qs) (ps : Profiles) :
    (qs.map fun q => (some q.1, Json.array (q.2.map JumpHost.toJson))).foldlM
      (fun ps ((name, j) : Option String × Json) => do
        return insert (← name) (← j.listOf JumpHost.ofJson?) ps) ps =
      some (qs.foldl (fun ps q => insert q.1 q.2 ps) ps) := by
  induction qs generalizing ps with
  | nil => rfl
  | cons q qs ih =>
    obtain ⟨hq, hqs⟩ := List.forall_mem_cons.1 hrange
    have hjumps := Json.listOf_map fun j hj => JumpHost.ofJson?_toJson (hq j hj)
    rw [List.map_cons, List.foldlM_cons, List.foldl_cons, ← ih hqs]
    simp [hjumps]

/-- Profiles in whatever order they are written are read in the order of their names. -/
theorem ofJson?_toJson (h : Ordered ps) (hrange : InRange qs) (hperm : qs.Perm ps) :
    ofJson? (toJson qs) = some ps := by
  have hnodup : (qs.map Prod.fst).Nodup :=
    (hperm.map _).nodup_iff.2 (List.pairwise_map.2 (h.imp fun hlt => (String.ne_of_lt hlt)))
  have hread := foldlM_toJson qs hrange []
  obtain ⟨hordered, hfold⟩ := foldl_insert qs (.nil : Ordered []) hnodup
  have hsame := (hfold.trans hperm).eq_of_pairwise
    (fun p q _ _ hpq hqp => absurd hqp (String.lt_asymm hpq)) hordered h
  rw [← hsame, ← hread]
  simp [ofJson?, toJson, Json.obj]
  rfl

end Profiles

namespace Settings

/-- What the fields of settings can hold. -/
structure InRange (s : Settings) : Prop where
  reopen : s.reopen.InRange
  connect : s.connect.InRange
  profiles : s.profiles.InRange
  ordered : s.profiles.Ordered

theorem writable_toJson (s : Settings) : (s.toJson Json.float).Writable :=
  writable_obj (by
    simp [writable_nat, s.reopen.writable_toJson, s.connect.writable_toJson,
      s.layout.writable_toJson, s.profiles.writable_toJson])

/-- The text of settings is read as the value that was written. -/
theorem ofText?_text (s : Settings) : ofText? s.text = ofJson? (s.toJson Json.float) := by
  unfold ofText? text
  rw [Json.Reader.ofText?_pretty s.writable_toJson]
  rfl

variable {s : Settings}

/-- The text of settings is read as these settings, in whatever order the profiles are written. -/
theorem ofText?_of_readsBack (h : s.InRange) (hversion : s.version ≤ settingsVersion)
    (hfloats : ∀ x ∈ s.layout.values, x.ReadsBack) {order : Profiles}
    (horder : order.Perm s.profiles) : ofText? (text { s with profiles := order }) = some s := by
  have hrange : order.InRange := fun p hp => h.profiles p (horder.subset hp)
  have hlimit : s.version < Nat.pow 2 32 :=
    Nat.lt_of_le_of_lt hversion (by decide)
  rw [ofText?_text]
  simp [ofJson?, toJson, Json.obj, Json.fields?, Json.namedFields, Json.once, Json.Fields.orDefault,
    Json.Fields.find?, List.lookup_cons, natBelow_nat hlimit, ReopenPolicy.ofJson?_toJson h.reopen,
    ConnectSettings.ofJson?_toJson h.connect, LayoutSettings.ofJson?_toJson hfloats,
    Profiles.ofJson?_toJson h.ordered hrange horder]

/-- The text of settings with a double that is not finite gives no settings. -/
theorem ofText?_of_not_finite {x : Binary64} (hx : x ∈ s.layout.values) (h : x.isFinite = false) :
    ofText? s.text = none := by
  have hnone := LayoutSettings.ofJson?_toJson_of_not_finite hx h
  rw [ofText?_text]
  simp [ofJson?, toJson, Json.obj, Json.fields?, Json.namedFields, Json.once, Json.Fields.orDefault,
    Json.Fields.find?, List.lookup_cons, hnone]

end Settings

end Multiplexer
