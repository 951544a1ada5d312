import Multiplexer.Proofs.Trust.Answers

/-!
# Writers of one file

Any number of writers may call at once. A call takes several steps, but a lock lets
in one call at a time and keeps the others out until it is complete. So a file is
always what its calls make of it one after the other, or one of them is part of
the way from there. As long as the operations on files succeed, opening the file
again gives what the completed calls have made of the records: what a completed
call has answered stays the answer until a later call is about the same key.
-/

namespace Multiplexer

open TrustFile

/-- What a call makes of the records. -/
def KeyringCall.made (s : TrustStore) (c : KeyringCall) : TrustStore := (c.change? s).getD s

namespace TrustFile

/-- Whether a file opens to a store that gives the same as another for every host and algorithm. -/
def Opens (path : Path) (disk : Disk) (s : TrustStore) : Prop :=
  ∃ f, load path disk = .ok f ∧
    ∀ hostId algorithm, f.store.get? hostId algorithm = s.get? hostId algorithm

structure Durable (path : Path) (f : TrustFile) : Prop where
  path_eq : f.path = path
  keyed : f.store.Keyed
  timed : f.store.Timed
  opens : Opens path f.disk f.store

variable {path : Path} {d d' : Disk} {f : TrustFile} {s : TrustStore} {c : KeyringCall}

/-- A file that was opened opens to what is in memory. -/
theorem durable_load (h : load path d = .ok f) : f.Durable path := by
  obtain ⟨hpath, hdisk, hkeyed, htimed⟩ := load_spec h
  exact ⟨hpath, hkeyed, htimed, f, hdisk.symm ▸ h, fun _ _ => rfl⟩

theorem ne_nil_of_load (h : load path d = .ok f) : path ≠ [] := by
  rintro rfl
  cases h

/-- What a file opens to depends on its text alone. -/
theorem opens_congr (h : Opens path d s) (hread : d'.readText path = d.readText path) :
    Opens path d' s := by
  obtain ⟨f, hload, hget⟩ := h
  have hsame : load path d' = (load path d).map fun f => { f with disk := d' } := by
    unfold load
    rw [hread]
    cases d.readText path with
    | error e => cases e <;> rfl
    | ok text => cases hrecords : records? text <;> simp only [hrecords, Except.map]
  exact ⟨{ f with disk := d' }, by rw [hsame, hload]; rfl, hget⟩

theorem answers_of_opens (h : Opens path d s) :
    ∃ f, load path d = .ok f ∧ f.store.answers = s.answers := by
  obtain ⟨f, hload, hget⟩ := h
  exact ⟨f, hload, funext fun p => hget p.1 p.2⟩

/-- A call that is complete and did not fail for the disk leaves a file that opens to its
records. -/
theorem durable_carryOut (h : f.Durable path)
    (hresult : ∀ reason, (c.carryOut f).1 ≠ .error (.disk reason)) :
    (c.carryOut f).2.Durable path ∧ (c.carryOut f).2.store = c.made f.store ∧
      (f.disk.Rooted path → (c.carryOut f).2.disk.Rooted path) := by
  unfold KeyringCall.made
  rcases saved_cases hresult with
    ⟨hchange, hcall⟩ | ⟨s, f', hchange, hcall, hstore, hpath, hreaches, hentry⟩
  · rw [hchange, hcall]
    exact ⟨h, rfl, id⟩
  · have hkeyed := KeyringCall.keyed_change? h.keyed hchange
    have htimed := KeyringCall.timed_change? h.timed hchange
    rw [h.path_eq] at hpath hreaches hentry
    subst hstore
    rw [hchange, hcall]
    exact ⟨⟨hpath, hkeyed, htimed,
      load_of_text hkeyed htimed (Disk.readText_of_reaches hreaches hentry)⟩, rfl,
      fun _ _ => hreaches⟩

/-- Making the directories on the way to a file does not change what it opens to. -/
theorem opens_createFolders (hrooted : d.Rooted path) (h : Opens path d s)
    (hfolders : d.createFolders (List.dropLast path) = .ok d') : Opens path d' s := by
  obtain ⟨f, hload, -⟩ := id h
  have hfind := Disk.find_of_reaches (Disk.reaches_of_createFolders hfolders)
  rw [Disk.entry?_of_createFolders (ne_nil_of_load hload) hfolders rfl] at hfind
  refine opens_congr h ?_
  by_cases hentry : d.entry? path = none
  · have hmissing : d'.readText path = .error .notFound :=
      Disk.readText_of_find_none (hfind.trans (congrArg _ hentry))
    obtain ⟨e, he⟩ := Disk.readText_of_none hentry
    obtain rfl : e = .notFound := by
      rw [load, he] at hload
      cases e <;> first | rfl | cases hload
    rw [hmissing, he]
  · exact Disk.readText_congr (hfind.trans (Disk.find_of_reaches (hrooted hentry)).symm)

end TrustFile

inductive Progress where
  | queued
  /-- The change is in memory. -/
  | changed
  /-- The directories are there. -/
  | furnished
  | rendered (text : String)
  /-- The temporary file is there. -/
  | written
  | returned (result : Except TrustError Unit)

/-- The next step of a call. -/
def Progress.next (c : KeyringCall) (f : TrustFile) : Progress → Progress × TrustFile
  | .queued =>
    match c.change? f.store with
    | some s => (.changed, { f with store := s })
    | none => (.returned (.error c.notFound), f)
  | .changed =>
    match f.disk.createFolders f.path.dropLast with
    | .ok disk => (.furnished, { f with disk })
    | .error e => (.returned (.error (.disk e.message)), f)
  | .furnished => (.rendered (text f.store), f)
  | .rendered text =>
    match f.disk.write (temporary f.path) text.toUTF8 with
    | .ok disk => (.written, { f with disk })
    | .error e => (.returned (.error (.disk e.message)), f)
  | .written =>
    match f.disk.rename (temporary f.path) f.path with
    | .ok disk => (.returned (.ok ()), { f with disk })
    | .error e => (.returned (.error (.disk e.message)), f)
  | .returned result => (.returned result, f)

/-- What a call leaves that has got so far and not returned. -/
inductive UnderWay (c : KeyringCall) (f : TrustFile) : Progress → TrustFile → Prop
  | queued : UnderWay c f .queued f
  | changed {s : TrustStore} (hchange : c.change? f.store = some s) :
      UnderWay c f .changed { f with store := s }
  | furnished {s : TrustStore} {disk : Disk} (hchange : c.change? f.store = some s)
      (hfolders : f.disk.createFolders f.path.dropLast = .ok disk) :
      UnderWay c f .furnished { f with store := s, disk }
  | rendered {s : TrustStore} {disk : Disk} (hchange : c.change? f.store = some s)
      (hfolders : f.disk.createFolders f.path.dropLast = .ok disk) :
      UnderWay c f (.rendered (text s)) { f with store := s, disk }
  | written {s : TrustStore} {disk disk' : Disk} (hchange : c.change? f.store = some s)
      (hfolders : f.disk.createFolders f.path.dropLast = .ok disk)
      (hwrite : disk.write (temporary f.path) (text s).toUTF8 = .ok disk') :
      UnderWay c f .written { f with store := s, disk := disk' }

/-- A step leads on, or ends the call with what it does when it is carried out at once. -/
theorem UnderWay.next {c : KeyringCall} {f f' : TrustFile} {p : Progress} (h : UnderWay c f p f') :
    p.next c f' = (.returned (c.carryOut f).1, (c.carryOut f).2) ∨
      UnderWay c f (p.next c f').1 (p.next c f').2 := by
  rw [c.carryOut_file]
  cases h with
  | queued =>
    cases hchange : c.change? f.store with
    | none =>
      left
      simp only [Progress.next, hchange]
    | some s =>
      simp only [Progress.next, hchange]
      exact .inr (.changed hchange)
  | @changed s hchange =>
    cases hfolders : f.disk.createFolders f.path.dropLast with
    | error e =>
      left
      simp only [Progress.next, hchange, persist, hfolders]
    | ok disk =>
      simp only [Progress.next, hfolders]
      exact .inr (.furnished hchange hfolders)
  | furnished hchange hfolders => exact .inr (.rendered hchange hfolders)
  | @rendered s disk hchange hfolders =>
    cases hwrite : disk.write (temporary f.path) (text s).toUTF8 with
    | error e =>
      left
      simp only [Progress.next, hchange, persist, hfolders, hwrite]
    | ok disk' =>
      simp only [Progress.next, hwrite]
      exact .inr (.written hchange hfolders hwrite)
  | @written s disk disk' hchange hfolders hwrite =>
    left
    cases hrename : disk'.rename (temporary f.path) f.path <;>
      simp only [Progress.next, hchange, persist, hfolders, hwrite, hrename]

/-- As long as a call is under way, the file opens to what it held before the call. -/
theorem UnderWay.opens {c : KeyringCall} {f f' : TrustFile} {p : Progress}
    (h : UnderWay c f p f') (hdurable : f.Durable f.path) (hrooted : f.disk.Rooted f.path) :
    Opens f.path f'.disk f.store := by
  cases h with
  | queued => exact hdurable.opens
  | changed hchange => exact hdurable.opens
  | furnished hchange hfolders => exact opens_createFolders hrooted hdurable.opens hfolders
  | rendered hchange hfolders => exact opens_createFolders hrooted hdurable.opens hfolders
  | @written s _ _ hchange hfolders hwrite =>
    obtain ⟨f', hload, -⟩ := hdurable.opens
    obtain ⟨hne, hother, hlength, -⟩ := temporary_spec (ne_nil_of_load hload)
    have hreaches := Disk.reaches_of_createFolders hfolders
    have hreaches' := hreaches.put hne (Disk.beside_of_length (Nat.le_of_eq hlength.symm))
      (.file (text s).toUTF8)
    refine opens_congr (opens_createFolders hrooted hdurable.opens hfolders) (Disk.readText_congr ?_)
    rw [Disk.write_eq_ok hwrite, Disk.find_of_reaches hreaches, Disk.find_of_reaches hreaches',
      Disk.entry?_put _ hne, if_neg hother.symm]

structure Active where
  number : Nat
  call : KeyringCall
  progress : Progress

/-- Those who write one file. A call that is neither active nor completed waits for the lock. -/
structure Writers where
  file : TrustFile
  /-- All calls, by number. -/
  calls : List KeyringCall := []
  active : Option Active := none
  /-- Oldest first. -/
  completed : List Completed := []

namespace Writers

inductive Event where
  | call (c : KeyringCall)
  /-- The turn of a call. Nothing happens if the lock keeps it out. -/
  | go (n : Nat)

def advance (w : Writers) (a : Active) : Writers :=
  match a.progress.next a.call w.file with
  | (.returned result, file) =>
    { w with
      file
      active := none
      completed := w.completed ++ [⟨a.number, a.call, result⟩] }
  | (progress, file) => { w with file, active := some { a with progress } }

def step (w : Writers) : Event → Writers
  | .call c => { w with calls := w.calls ++ [c] }
  | .go n =>
    match w.active with
    | some a => if a.number = n then w.advance a else w
    | none =>
      match w.calls[n]? with
      | some c => if n ∈ w.completed.map Completed.number then w else w.advance ⟨n, c, .queued⟩
      | none => w

def of (f : TrustFile) : Writers := { file := f }

def run (w : Writers) (es : List Event) : Writers := es.foldl step w

theorem run_concat (w : Writers) (es : List Event) (e : Event) :
    w.run (es ++ [e]) = (w.run es).step e := by
  simp [run]

/-- What calls return and leave that come one after the other. -/
def oneByOne (f : TrustFile) : List KeyringCall → List (Except TrustError Unit) × TrustFile
  | [] => ([], f)
  | c :: cs =>
    let r := c.carryOut f
    let rest := oneByOne r.2 cs
    (r.1 :: rest.1, rest.2)

/-- The last call finds what those before it have left. -/
theorem oneByOne_concat (f : TrustFile) (cs : List KeyringCall) (c : KeyringCall) :
    oneByOne f (cs ++ [c]) =
      ((oneByOne f cs).1 ++ [(c.carryOut (oneByOne f cs).2).1], (c.carryOut (oneByOne f cs).2).2) := by
  induction cs generalizing f with
  | nil => rfl
  | cons c' cs ih => simp [oneByOne, ih]

/-- The file without the call that is under way. -/
def base (f : TrustFile) (w : Writers) : TrustFile := (oneByOne f (w.completed.map Completed.call)).2

/-- Writers who leave what their calls leave one after the other. -/
structure Serial (f : TrustFile) (w : Writers) : Prop where
  called : ∀ x ∈ w.completed, w.calls[x.number]? = some x.call
  once : (w.completed.map Completed.number).Nodup
  results : w.completed.map Completed.result = (oneByOne f (w.completed.map Completed.call)).1
  idle : w.active = none → w.file = w.base f
  busy : ∀ a, w.active = some a → w.calls[a.number]? = some a.call ∧
    a.number ∉ w.completed.map Completed.number ∧ UnderWay a.call (w.base f) a.progress w.file

variable {f : TrustFile} {w : Writers} {a : Active}

/-- A turn is one of the call that is active, or of one that the lock now lets in. -/
theorem go_cases (w : Writers) (n : Nat) :
    w.step (.go n) = w ∨ ∃ a, w.step (.go n) = w.advance a ∧
      (w.active = some a ∨ w.active = none ∧ w.calls[a.number]? = some a.call ∧
        a.number ∉ w.completed.map Completed.number ∧ a.progress = .queued) := by
  rw [step]
  cases hactive : w.active with
  | some a =>
    by_cases hturn : a.number = n
    · exact .inr ⟨a, by simp only [hturn, if_true], .inl rfl⟩
    · exact .inl (by simp only [hturn, if_false])
  | none =>
    cases hcall : w.calls[n]? with
    | none => exact .inl rfl
    | some c =>
      by_cases hcompleted : n ∈ w.completed.map Completed.number
      · exact .inl (by simp only [hcompleted, if_true])
      · exact .inr ⟨⟨n, c, .queued⟩, by simp only [hcompleted, if_false],
          .inr ⟨rfl, hcall, hcompleted, rfl⟩⟩

/-- A turn of the call that is let in keeps the calls one after the other. -/
theorem serial_advance (h : w.Serial f) (hcall : w.calls[a.number]? = some a.call)
    (hfresh : a.number ∉ w.completed.map Completed.number)
    (hway : UnderWay a.call (w.base f) a.progress w.file) : (w.advance a).Serial f := by
  rcases hway.next with hreturned | hway
  · have hconcat := oneByOne_concat f (w.completed.map Completed.call) a.call
    rw [advance, hreturned]
    exact {
      called := by simpa [or_imp, forall_and, hcall] using h.called
      once := by
        rw [List.map_append, List.map_singleton, ← List.concat_eq_append]
        exact h.once.concat hfresh
      results := by simp [hconcat, h.results, base]
      idle := fun _ => by simp [hconcat, base]
      busy := by simp }
  · unfold advance
    split
    · rename_i result file hnext
      rw [hnext] at hway
      cases hway
    · rename_i progress file _ hnext
      rw [hnext] at hway
      exact { h with
        idle := by simp
        busy := fun a' ha' => by
          cases ha'
          exact ⟨hcall, hfresh, hway⟩ }

/-- Every event keeps the calls one after the other. -/
theorem serial_step (h : w.Serial f) (e : Event) : (w.step e).Serial f := by
  cases e with
  | call c =>
    have hkeep {n : Nat} {c' : KeyringCall} (hcall : w.calls[n]? = some c') :
        (w.calls ++ [c])[n]? = some c' := by
      obtain ⟨hlt, -⟩ := List.getElem?_eq_some_iff.1 hcall
      rwa [List.getElem?_append_left hlt]
    exact { h with
      called := fun x hx => hkeep (h.called x hx)
      busy := fun a ha => (h.busy a ha).imp_left hkeep }
  | go n =>
    rcases w.go_cases n with hsame | ⟨a, hadvance, hactive | ⟨hidle, hcall, hfresh, hqueued⟩⟩
    · rwa [hsame]
    · obtain ⟨hcall, hfresh, hway⟩ := h.busy a hactive
      rw [hadvance]
      exact serial_advance h hcall hfresh hway
    · rw [hadvance]
      exact serial_advance h hcall hfresh (hqueued ▸ h.idle hidle ▸ .queued)

/-- However their turns alternate, writers leave what their calls leave one after the other. -/
theorem serial_run (f : TrustFile) (es : List Event) : ((of f).run es).Serial f := by
  have hstart : (of f).Serial f :=
    { called := by simp [of], once := .nil, results := rfl, idle := fun _ => rfl, busy := by simp [of] }
  suffices h : ∀ w : Writers, w.Serial f → (w.run es).Serial f from h _ hstart
  induction es with
  | nil => exact fun w h => h
  | cons e es ih => exact fun w h => ih _ (serial_step h e)

/-- What the completed calls make of the records of a store. -/
def made (w : Writers) (s : TrustStore) : TrustStore :=
  (w.completed.map Completed.call).foldl KeyringCall.made s

/-- Whether no call failed for the disk. -/
def Clean (w : Writers) : Prop := ∀ x ∈ w.completed, ∀ reason, x.result ≠ .error (.disk reason)

/-- Calls that do not fail for the disk leave a file that opens to what they have made of the
records. -/
theorem durable_oneByOne {path : Path} {cs : List KeyringCall} (h : f.Durable path)
    (hresults : ∀ r ∈ (oneByOne f cs).1, ∀ reason, r ≠ .error (.disk reason)) :
    (oneByOne f cs).2.Durable path ∧ (oneByOne f cs).2.store = cs.foldl KeyringCall.made f.store ∧
      (f.disk.Rooted path → (oneByOne f cs).2.disk.Rooted path) := by
  induction cs generalizing f with
  | nil => exact ⟨h, rfl, id⟩
  | cons c cs ih =>
    obtain ⟨hresult, hrest⟩ := List.forall_mem_cons.1 hresults
    obtain ⟨hdurable, hstore, hrooted⟩ := durable_carryOut h hresult
    obtain ⟨hdurable', hstore', hrooted'⟩ := ih hdurable hrest
    exact ⟨hdurable', hstore'.trans (by rw [List.foldl_cons, hstore]), hrooted' ∘ hrooted⟩

/-- Calls that come one after the other do to the answers of a file what they should. -/
theorem become_oneByOne {path : Path} {xs : List Completed} (h : f.Durable path)
    (hresults : xs.map Completed.result = (oneByOne f (xs.map Completed.call)).1)
    (hclean : ∀ x ∈ xs, ∀ reason, x.result ≠ .error (.disk reason)) :
    Answers.Become f.store.answers xs (oneByOne f (xs.map Completed.call)).2.store.answers := by
  induction xs generalizing f with
  | nil => exact .same _
  | cons x xs ih =>
    obtain ⟨hresult, hrest⟩ := List.cons.inj hresults
    obtain ⟨hx, hxs⟩ := List.forall_mem_cons.1 hclean
    rw [hresult] at hx
    have hchanges := KeyringCall.changes_carryOut h.keyed hx
    rw [← hresult] at hchanges
    exact .next hchanges (ih (durable_carryOut h hx).1 hrest hxs)

/-- The event that completes a call opens the lock. -/
theorem idle_of_completed (e : Event) (h : (w.step e).completed ≠ w.completed) :
    (w.step e).active = none := by
  cases e with
  | call c => exact absurd rfl h
  | go n =>
    rcases w.go_cases n with hsame | ⟨a, hadvance, -⟩
    · exact absurd (by rw [hsame]) h
    · rw [hadvance] at h ⊢
      unfold advance at h ⊢
      split at h
      · rfl
      · exact absurd rfl h

/-- While no operation on files fails, a file opens to what the completed calls have made of the
records it had in the beginning, each in its turn and once. Memory is the same whenever the lock is
open, as it is when a call is complete. So memory, and the file opened again, answer with the record
that a call has left until a later one is about it. -/
theorem completed_calls_kept {path : Path} {disk : Disk} (hload : load path disk = .ok f)
    (es : List Event) (hclean : ((of f).run es).Clean) :
    ((of f).run es).Serial f ∧
      (∀ before e, es = before ++ [e] → ((of f).run es).completed ≠ ((of f).run before).completed →
        ((of f).run es).active = none) ∧
      (((of f).run es).active = none →
        ((of f).run es).file.store = ((of f).run es).made f.store ∧
        Opens path ((of f).run es).file.disk ((of f).run es).file.store) ∧
      (disk.Rooted path →
        Opens path ((of f).run es).file.disk (((of f).run es).made f.store)) ∧
      ∃ rs a, Holds path disk rs ∧ Answers.Keep rs ((of f).run es).completed a ∧
        (((of f).run es).active = none → ((of f).run es).file.store.answers = a) ∧
        (((of f).run es).active = none ∨ disk.Rooted path →
          ∃ f', load path ((of f).run es).file.disk = .ok f' ∧ f'.store.answers = a) := by
  have hserial := serial_run f es
  have hidle (before : List Event) (e : Event) (hes : es = before ++ [e])
      (h : ((of f).run es).completed ≠ ((of f).run before).completed) :
      ((of f).run es).active = none := by
    subst hes
    rw [run_concat] at h ⊢
    exact idle_of_completed e h
  obtain ⟨w, hw⟩ : ∃ w, w = (of f).run es := ⟨_, rfl⟩
  rw [← hw] at hclean hserial hidle ⊢
  have hresults : ∀ r ∈ (oneByOne f (w.completed.map Completed.call)).1, ∀ reason,
      r ≠ .error (.disk reason) := by
    rw [← hserial.results, List.forall_mem_map]
    exact hclean
  obtain ⟨hdurable, hstore, hrooted⟩ := durable_oneByOne (durable_load hload) hresults
  have hmemory (hactive : w.active = none) : w.file.store = w.made f.store ∧
      Opens path w.file.disk w.file.store := by
    rw [hserial.idle hactive]
    exact ⟨hstore, hdurable.opens⟩
  have hopens (h : disk.Rooted path) : Opens path w.file.disk (w.made f.store) := by
    obtain rfl := (load_spec hload).2.1
    rw [made, ← hstore]
    cases hactive : w.active with
    | none => exact hserial.idle hactive ▸ hdurable.opens
    | some a =>
      obtain rfl := hdurable.path_eq
      exact (hserial.busy a hactive).2.2.opens hdurable (hrooted h)
  obtain ⟨rs, hholds, hlast⟩ := holds_of_load hload
  have hbecome := become_oneByOne (durable_load hload) hserial.results hclean
  rw [hlast, hstore] at hbecome
  refine ⟨hserial, hidle, hmemory, hopens, rs, (w.made f.store).answers, hholds, hbecome.keep,
    fun hactive => congrArg TrustStore.answers (hmemory hactive).1, fun h => answers_of_opens ?_⟩
  rcases h with hactive | h
  · exact (hmemory hactive).1 ▸ (hmemory hactive).2
  · exact hopens h

def evening : Instant := { day := 20000, second := 64800 }

theorem valid_evening : evening.Valid := ⟨by decide, by decide, by decide, by decide⟩

/-- The records of a file that holds two for one host and algorithm. The second counts. -/
def repeated : TrustStore :=
  ⟨[.accepted "old" "web" "ssh-ed25519" "SHA256:old" noon,
    .accepted "kept" "web" "ssh-ed25519" "SHA256:kept" noon]⟩

def repeatedFile : TrustFile where
  store := .ofRecords repeated.records
  path := ["trust", "hosts.json"]
  disk := ⟨[(["trust"], .folder), (["trust", "hosts.json"], .file (text repeated).toUTF8)]⟩

theorem load_repeated : load repeatedFile.path repeatedFile.disk = .ok repeatedFile := by
  have htimed : repeated.Timed := by
    simp only [TrustStore.Timed, repeated, List.forall_mem_cons]
    exact ⟨⟨valid_noon, valid_noon⟩, ⟨valid_noon, valid_noon⟩, List.forall_mem_nil _⟩
  have hsorted : repeated.sorted = repeated.records := List.mergeSort_of_pairwise (by decide)
  have hread : repeatedFile.disk.readText repeatedFile.path = .ok (text repeated) :=
    Disk.readText_of_reaches (Disk.reaches_of_find rfl) rfl
  simp only [load, hread, records?_text htimed, hsorted]
  rfl

def bring (id hostId algorithm : String) : KeyringCall :=
  .upsert (.accepted id hostId algorithm "SHA256:new" noon) ⟨valid_noon, valid_noon⟩

/-- Two writers whose turns alternate: the second is let in first. Then a record of the file is seen. -/
def alternating : List Event :=
  [.call (bring "first" "db" "ssh-ed25519"), .call (bring "second" "db" "ssh-rsa"), .go 1, .go 0,
    .go 1, .go 0, .go 1, .call (.touch "kept" evening valid_evening), .go 0, .go 1, .go 0, .go 1,
    .go 0, .go 0, .go 2, .go 0, .go 0, .go 0, .go 2, .go 2, .go 2, .go 2, .go 2]

theorem alternating_calls_kept :
    load repeatedFile.path repeatedFile.disk = .ok repeatedFile ∧
    ((of repeatedFile).run alternating).Clean ∧
    ((of repeatedFile).run alternating).completed.map Completed.number = [1, 0, 2] ∧
    ∃ f, load repeatedFile.path ((of repeatedFile).run alternating).file.disk = .ok f ∧
      f.store.get? "db" "ssh-rsa" =
        some (.accepted "second" "db" "ssh-rsa" "SHA256:new" noon) ∧
      f.store.get? "db" "ssh-ed25519" =
        some (.accepted "first" "db" "ssh-ed25519" "SHA256:new" noon) ∧
      f.store.get? "web" "ssh-ed25519" =
        some { KeyRecord.accepted "kept" "web" "ssh-ed25519" "SHA256:kept" noon with
          lastSeen := evening } := by
  have hcompleted : ((of repeatedFile).run alternating).completed =
      [⟨1, bring "second" "db" "ssh-rsa", .ok ()⟩, ⟨0, bring "first" "db" "ssh-ed25519", .ok ()⟩,
        ⟨2, .touch "kept" evening valid_evening, .ok ()⟩] := rfl
  have hclean : ((of repeatedFile).run alternating).Clean := by
    rw [Clean, hcompleted]
    simp
  obtain ⟨-, -, -, -, rs, a, -, -, hmemory, hopens⟩ :=
    completed_calls_kept load_repeated alternating hclean
  obtain ⟨f, hload, hanswers⟩ := hopens (.inl rfl)
  rw [← hmemory rfl] at hanswers
  have hget (hostId algorithm : String) : f.store.get? hostId algorithm =
      ((of repeatedFile).run alternating).file.store.get? hostId algorithm :=
    congrFun hanswers (hostId, algorithm)
  refine ⟨load_repeated, hclean, by rw [hcompleted]; rfl, f, hload, ?_, ?_, ?_⟩
  all_goals
    rw [hget]
    decide

end Writers

end Multiplexer
