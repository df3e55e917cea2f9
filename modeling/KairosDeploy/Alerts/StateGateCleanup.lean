import KairosDeploy.Alerts.StateGate

/-!
# What the alert-state gate reports about its cleanup

The invariant keeps the books and the issued commands in step: a container
whose creation was requested is in the books or has been removed and seen
absent since, and a `rm` follows an `inspect` that was verified.  It holds
however a run ends.
-/

namespace KairosDeploy.Alerts.StateGate

open KairosDeploy.Library.FaultyProgram
open KairosDeploy.Library.FaultyProgram.Program
open KairosDeploy.Library.HexDigest
open KairosDeploy.Library.JsonText
open KairosDeploy.Library.JsonValue
open KairosDeploy.Library.PyObject

/-! ## What the commands show -/

/-- The command creates the container with this name. -/
def Entry.creates (name : String) (entry : Entry) : Prop :=
  ∃ image options arguments,
    entry.command = .create name image options arguments

/-- The command creates the volume. -/
def Entry.createsVolume (entry : Entry) : Prop :=
  ∃ labels, entry.command = .volumeCreate labels

section

variable (setting : Setting)

/-- The reply is a verified view, with this id, of the container with this
name, for an image and an expectation that the run put in its books. -/
structure Verified (state : State) (name id text : String) : Prop where
  view :
    ∃ value image expected,
      loads setting.reader text = some value ∧
        (name, image) ∈ state.images ∧
        (name, expected) ∈ state.expectations ∧
        VerifiedView setting name image expected value ∧
        subscript value "Id" = some (.text id)

/-- The reply is a verified view of the volume. -/
def VolumeVerified (text : String) : Prop :=
  ∃ value,
    loads setting.reader text = some value ∧
      stateMetadataError setting value = none

/-- What must have happened before a command is issued. -/
def Allowed (state : State) (before : List Entry) : Command → Prop
  | .remove id =>
      ∃ earlier name text,
        before = earlier ++ [⟨.inspect name, some text⟩] ∧
          Verified setting state name id text
  | .volumeRemove =>
      (∃ earlier text,
        before = earlier ++ [⟨.volumeInspect, some text⟩] ∧
          VolumeVerified setting text) ∧
        before.head? = some ⟨.volumeList, some ""⟩
  | _ => True

/-- Every removal follows a verified inspection of the same object, and the
volume is removed only if the first command showed that there was none. -/
def Guarded (state : State) : Prop :=
  ∀ before entry after,
    state.log = before ++ entry :: after →
      Allowed setting state before entry.command

/-- The container was verified, removed by its id and seen absent, and its
creation has not been requested since. -/
structure Removed (state : State) (name : String) : Prop where
  seen :
    ∃ before text id reply after,
      state.log =
          before ++
            ⟨.inspect name, some text⟩ :: ⟨.remove id, some reply⟩ ::
              ⟨.list id, some ""⟩ :: after ∧
        Verified setting state name id text ∧
        ∀ entry ∈ after, ¬ entry.creates name

/-- The volume was verified, removed and seen absent. -/
def VolumeGone (state : State) : Prop :=
  ∃ before text reply,
    state.log =
        before ++
          [⟨.volumeInspect, some text⟩, ⟨.volumeRemove, some reply⟩,
            ⟨.volumeList, some ""⟩] ∧
      VolumeVerified setting text

/-- Everything whose creation was requested is gone. -/
structure Cleaned (state : State) : Prop where
  containers :
    ∀ name, (∃ entry ∈ state.log, entry.creates name) →
      Removed setting state name
  volume :
    (∃ entry ∈ state.log, entry.createsVolume) → VolumeGone setting state

/-- The books and the commands are in step. -/
structure InStep (state : State) : Prop where
  guarded : Guarded setting state
  booked :
    ∀ name, (∃ entry ∈ state.log, entry.creates name) →
      name ∈ state.books.names ∨ Removed setting state name
  images : ∀ entry ∈ state.books.owned, entry ∈ state.images
  expectations :
    ∀ entry ∈ state.books.expected, entry ∈ state.expectations
  intended :
    (∃ entry ∈ state.log, entry.createsVolume) →
      state.books.volumeIntent = true
  vacant :
    state.books.volumeIntent = true →
      state.log.head? = some ⟨.volumeList, some ""⟩

end

/-! ## Growth -/

section

variable {setting : Setting} {state later : State} {name id text : String}

/-- The books' histories only grow. -/
theorem Verified.mono
    (verified : Verified setting state name id text)
    (images : ∀ entry ∈ state.images, entry ∈ later.images)
    (expectations :
      ∀ entry ∈ state.expectations, entry ∈ later.expectations) :
    Verified setting later name id text := by
  rcases verified.view with
    ⟨value, image, expected, parsed, owned, known, view, found⟩
  exact
    ⟨value, image, expected, parsed, images _ owned, expectations _ known,
      view, found⟩

theorem Allowed.mono
    {before : List Entry} {command : Command}
    (allowed : Allowed setting state before command)
    (images : ∀ entry ∈ state.images, entry ∈ later.images)
    (expectations :
      ∀ entry ∈ state.expectations, entry ∈ later.expectations) :
    Allowed setting later before command := by
  cases command with
  | remove id =>
      rcases allowed with ⟨earlier, name, text, last, verified⟩
      exact
        ⟨earlier, name, text, last, verified.mono images expectations⟩
  | volumeRemove => exact allowed
  | _ => trivial

/-- A change of the books that forgets no history. -/
theorem Removed.mono
    (removed : Removed setting state name)
    (log : later.log = state.log)
    (images : ∀ entry ∈ state.images, entry ∈ later.images)
    (expectations :
      ∀ entry ∈ state.expectations, entry ∈ later.expectations) :
    Removed setting later name := by
  rcases removed.seen with
    ⟨before, text, id, reply, after, split, verified, quiet⟩
  exact
    ⟨before, text, id, reply, after, log.trans split,
      verified.mono images expectations, quiet⟩

theorem Guarded.mono
    (guarded : Guarded setting state) (log : later.log = state.log)
    (images : ∀ entry ∈ state.images, entry ∈ later.images)
    (expectations :
      ∀ entry ∈ state.expectations, entry ∈ later.expectations) :
    Guarded setting later := by
  intro before entry after split
  rw [log] at split
  exact (guarded before entry after split).mono images expectations

/-- A removed container stays removed until its creation is requested. -/
theorem Removed.issue
    {command : Command} {reply : Option String}
    (removed : Removed setting state name)
    (other : ¬ Entry.creates name ⟨command, reply⟩) :
    Removed setting (state.issue command reply) name := by
  rcases removed.seen with
    ⟨before, text, id, answer, after, split, verified, quiet⟩
  refine
    ⟨before, text, id, answer, after ++ [⟨command, reply⟩], ?_,
      ⟨verified.view⟩, ?_⟩
  · show state.log ++ _ = _
    rw [split]
    simp
  · intro entry inside
    rcases List.mem_append.1 inside with earlier | last
    · exact quiet entry earlier
    · rw [List.mem_singleton.1 last]
      exact other

/-- One more command that is allowed. -/
theorem Guarded.issue
    {command : Command} {reply : Option String}
    (guarded : Guarded setting state)
    (allowed : Allowed setting state state.log command) :
    Guarded setting (state.issue command reply) := by
  intro before entry after split
  change state.log ++ [_] = _ at split
  rcases List.eq_nil_or_concat after with rfl | ⟨front, last, rfl⟩
  · have parts := List.append_inj' split rfl
    rw [← parts.1, ← (List.cons.inj parts.2).1]
    exact allowed.mono (fun _ => id) fun _ => id
  · have shifted :
        state.log ++ [⟨command, reply⟩] =
          (before ++ entry :: front) ++ [last] := by
      rw [split]
      simp
    have parts := List.append_inj' shifted rfl
    exact (guarded before entry front parts.1).mono (fun _ => id) fun _ => id

/-- What the books must say before a command is issued. -/
structure Ready (setting : Setting) (state : State) (command : Command) :
    Prop where
  allowed : Allowed setting state state.log command
  booked :
    ∀ name image options arguments,
      command = .create name image options arguments →
        name ∈ state.books.names
  intended :
    ∀ labels, command = .volumeCreate labels →
      state.books.volumeIntent = true

theorem InStep.issue
    {command : Command} {reply : Option String}
    (inStep : InStep setting state) (ready : Ready setting state command) :
    InStep setting (state.issue command reply) where
  guarded := inStep.guarded.issue ready.allowed
  booked := by
    intro name created
    by_cases now : Entry.creates name ⟨command, reply⟩
    · rcases now with ⟨image, options, arguments, same⟩
      exact .inl (ready.booked name image options arguments same)
    · rcases created with ⟨entry, inside, creates⟩
      rcases List.mem_append.1 inside with earlier | last
      · rcases inStep.booked name ⟨entry, earlier, creates⟩ with
          owned | removed
        · exact .inl owned
        · exact .inr (removed.issue now)
      · rw [List.mem_singleton.1 last] at creates
        exact absurd creates now
  images := inStep.images
  expectations := inStep.expectations
  intended := by
    rintro ⟨entry, inside, labels, creates⟩
    rcases List.mem_append.1 inside with earlier | last
    · exact inStep.intended ⟨entry, earlier, labels, creates⟩
    · rw [List.mem_singleton.1 last] at creates
      exact ready.intended labels creates
  vacant := by
    intro intended
    have first := inStep.vacant intended
    show (state.log ++ _).head? = _
    rw [List.head?_append, first]
    rfl

/-- A change of the books that forgets neither a history nor a name. -/
theorem InStep.rebook
    (inStep : InStep setting state)
    (log : later.log = state.log)
    (images : ∀ entry ∈ state.images, entry ∈ later.images)
    (expectations :
      ∀ entry ∈ state.expectations, entry ∈ later.expectations)
    (names :
      ∀ name ∈ state.books.names,
        name ∈ later.books.names ∨ Removed setting state name)
    (owned : ∀ entry ∈ later.books.owned, entry ∈ later.images)
    (expected : ∀ entry ∈ later.books.expected, entry ∈ later.expectations)
    (intent :
      state.books.volumeIntent = true → later.books.volumeIntent = true)
    (vacant :
      later.books.volumeIntent = true →
        state.log.head? = some ⟨.volumeList, some ""⟩) :
    InStep setting later where
  guarded := inStep.guarded.mono log images expectations
  booked := by
    intro name created
    rw [log] at created
    have removed :
        Removed setting state name → Removed setting later name :=
      fun removed => removed.mono log images expectations
    rcases inStep.booked name created with inBooks | gone
    · exact (names name inBooks).imp id removed
    · exact .inr (removed gone)
  images := owned
  expectations := expected
  intended := by
    rw [log]
    exact fun created => intent (inStep.intended created)
  vacant := by
    rw [log]
    exact vacant

theorem InStep.tick (inStep : InStep setting state) :
    InStep setting state.tick :=
  inStep.rebook rfl (fun _ => id) (fun _ => id) (fun _ => .inl)
    inStep.images inStep.expectations id inStep.vacant

theorem mem_assign
    {Value : Type} {entries : List (String × Value)} {key : String}
    {value : Value} {entry : String × Value}
    (inside : entry ∈ assign entries key value) :
    entry = (key, value) ∨ entry ∈ entries :=
  (List.mem_cons.1 inside).imp id fun found => (List.mem_filter.1 found).1

/-- `self.owned[name] = image_id`. -/
theorem InStep.own
    {image : String} (inStep : InStep setting state) :
    InStep setting (state.own name image) := by
  refine
    inStep.rebook rfl (fun _ => List.mem_cons_of_mem _) (fun _ => id) ?_ ?_
      inStep.expectations id inStep.vacant
  · intro other owned
    left
    show other ∈ (assign state.books.owned name image).map Prod.fst
    rcases List.mem_map.1 owned with ⟨entry, inside, rfl⟩
    by_cases same : entry.1 = name
    · rw [same]
      exact List.mem_cons_self
    · refine List.mem_cons_of_mem _ (List.mem_map_of_mem ?_)
      exact List.mem_filter.2 ⟨inside, decide_eq_true same⟩
  · intro entry inside
    rcases mem_assign inside with rfl | earlier
    · exact List.mem_cons_self
    · exact List.mem_cons_of_mem _ (inStep.images entry earlier)

/-- `self.expected[name] = …`. -/
theorem InStep.expect
    {expected : Expected} (inStep : InStep setting state) :
    InStep setting (state.expect name expected) := by
  refine
    inStep.rebook rfl (fun _ => id) (fun _ => List.mem_cons_of_mem _)
      (fun _ => .inl) inStep.images ?_ id inStep.vacant
  intro entry inside
  rcases mem_assign inside with rfl | earlier
  · exact List.mem_cons_self
  · exact List.mem_cons_of_mem _ (inStep.expectations entry earlier)

/-- `del self.owned[name]`, once the container is removed. -/
theorem InStep.disown
    (inStep : InStep setting state)
    (removed : Removed setting state name) :
    InStep setting (state.rebook fun books => books.disown name) := by
  refine
    inStep.rebook rfl (fun _ => id) (fun _ => id) ?_ ?_
      inStep.expectations id inStep.vacant
  · intro other owned
    by_cases same : other = name
    · exact .inr (same ▸ removed)
    · rcases List.mem_map.1 owned with ⟨entry, inside, rfl⟩
      exact
        .inl
          (List.mem_map_of_mem
            (List.mem_filter.2 ⟨inside, decide_eq_true same⟩))
  · exact fun entry inside =>
      inStep.images entry (List.mem_filter.1 inside).1

/-- `del self.expected[name]`. -/
theorem InStep.unexpect (inStep : InStep setting state) :
    InStep setting (state.rebook fun books => books.unexpect name) :=
  inStep.rebook rfl (fun _ => id) (fun _ => id) (fun _ => .inl)
    inStep.images
    (fun entry inside =>
      inStep.expectations entry (List.mem_filter.1 inside).1)
    id inStep.vacant

end

/-! ## The statements -/

section

variable (setting : Setting) (environment : Environment)

/-- The lease and the books in step. -/
structure Holding (lease : Option LeaseFile) (state : State) : Prop where
  lease_eq : state.lease = lease
  inStep : InStep setting state

/-- The books are these. -/
def HasBooks (books : Books) (state : State) : Prop :=
  state.books = books

variable {setting environment}
variable {lease : Option LeaseFile} {books : Books} {before : State → Prop}
variable {name : String}

theorem Holding.tick {state : State} (holding : Holding setting lease state) :
    Holding setting lease state.tick :=
  ⟨holding.lease_eq, holding.inStep.tick⟩

/-- A point of interruption changes nothing but the clock. -/
theorem pause_keeps
    {invariant : State → Prop}
    (kept : ∀ state, invariant state → invariant state.tick)
    (stable : ∀ state, before state → before state.tick) :
    Keeps invariant before (pause environment) fun _ => before := by
  intro state holds ready
  unfold pause external perform
  dsimp only
  split
  · exact ⟨kept state holds, stable state ready⟩
  · exact ⟨kept state holds, trivial⟩
  · exact kept state holds

theorem check_keeps
    {invariant : State → Prop} {category : String}
    (kept : ∀ state, invariant state → invariant state.tick)
    (stable : ∀ state, before state → before state.tick) :
    Keeps invariant before (check environment category)
      fun _ => before := by
  refine ensures_bind ensures_observe fun passes => ?_
  refine
    ensures_bind
      ((pause_keeps kept stable).weakenPre fun _ _ ready => ready.1)
      fun _ => ?_
  refine ensures_ite (fun _ => ?_) fun _ => ?_
  · exact ensures_pure fun _ _ ready => ready
  · exact ensures_raise fun _ _ _ => trivial

/-- A command for which the books are ready. -/
theorem command_keeps
    {issued : Command}
    (ready :
      ∀ state, Holding setting lease state → before state →
        Ready setting state issued) :
    Keeps (Holding setting lease) before (command environment issued)
      fun text later =>
        ∃ state, before state ∧ Holding setting lease state ∧
          later = (state.issue issued (some text)).tick := by
  intro state holding start
  have issue :
      ∀ reply, Holding setting lease ((state.issue issued reply).tick) :=
    fun reply =>
      ⟨holding.lease_eq,
        (holding.inStep.issue (ready state holding start)).tick⟩
  unfold command
  dsimp only
  split
  · exact ⟨issue _, state, start, holding, rfl⟩
  · exact ⟨holding.tick, trivial⟩
  · exact ⟨issue none, trivial⟩
  · exact holding.tick
  · exact issue none

/-- A command that creates and removes nothing. -/
def Command.isPlain : Command → Bool
  | .create .. | .remove _ | .volumeCreate _ | .volumeRemove => false
  | _ => true

theorem ready_of_isPlain
    {state : State} {issued : Command} (plain : issued.isPlain = true) :
    Ready setting state issued := by
  cases issued with
  | create => cases plain
  | remove => cases plain
  | volumeCreate => cases plain
  | volumeRemove => cases plain
  | _ => exact ⟨trivial, nofun, nofun⟩

/-- The last command issued. -/
def LastReply (issued : Command) (text : String) (state : State) : Prop :=
  ∃ earlier, state.log = earlier ++ [⟨issued, some text⟩]

theorem plain_keeps
    {issued : Command} (plain : issued.isPlain = true) :
    Keeps (Holding setting lease) (HasBooks books)
      (command environment issued)
      fun text state =>
        HasBooks books state ∧ LastReply issued text state := by
  refine
    (command_keeps fun _ _ _ => ready_of_isPlain plain).weakenPost ?_
  rintro text _ _ ⟨state, ready, _, rfl⟩
  exact ⟨ready, state.log, rfl⟩

theorem parseReply_keeps {text : String} :
    Keeps (Holding setting lease) before (parseReply setting text)
      fun value state =>
        before state ∧ loads setting.reader text = some value := by
  unfold parseReply
  split
  · rename_i value parsed
    exact ensures_pure fun _ _ ready => ⟨ready, parsed⟩
  · exact ensures_raise fun _ _ _ => trivial

theorem refuseWrong_keeps {wrong : Option Bool} {category : String} :
    Keeps (Holding setting lease) before (refuseWrong wrong category)
      fun _ state => before state ∧ wrong = some false := by
  unfold refuseWrong
  split
  · exact ensures_pure fun _ _ ready => ⟨ready, rfl⟩
  · exact ensures_raise fun _ _ _ => trivial
  · exact ensures_raise fun _ _ _ => trivial

theorem entryOf_keeps {Value : Type} {found : Option Value} :
    Keeps (Holding setting lease) before (entryOf found)
      fun value state => before state ∧ found = some value := by
  unfold entryOf
  split
  · exact ensures_pure fun _ _ ready => ⟨ready, rfl⟩
  · exact ensures_raise fun _ _ _ => trivial

theorem idOf_keeps {value : Json} :
    Keeps (Holding setting lease) before (idOf value)
      fun id state =>
        before state ∧ subscript value "Id" = some (.text id) := by
  unfold idOf
  split
  · rename_i id found
    exact ensures_pure fun _ _ ready => ⟨ready, found⟩
  · exact ensures_raise fun _ _ _ => trivial

/-- The last command showed a verified view of the container. -/
def Inspected (setting : Setting) (name : String) (value : Json)
    (state : State) : Prop :=
  ∃ text image expected,
    LastReply (.inspect name) text state ∧
      loads setting.reader text = some value ∧
      (name, image) ∈ state.images ∧
      (name, expected) ∈ state.expectations ∧
      VerifiedView setting name image expected value

theorem inspect_keeps :
    Keeps (Holding setting lease) (HasBooks books)
      (inspect setting environment name)
      fun value state =>
        HasBooks books state ∧
          ∃ text, LastReply (.inspect name) text state ∧
            loads setting.reader text = some value := by
  unfold inspect
  refine ensures_bind (plain_keeps rfl) fun text => ?_
  refine ensures_bind parseReply_keeps fun value => ?_
  split
  · exact
      ensures_pure fun _ _ ready =>
        ⟨ready.1.1, text, ready.1.2, ready.2⟩
  · exact ensures_raise fun _ _ _ => trivial

/-- `verify` returns a verified view. -/
theorem verify_keeps :
    Keeps (Holding setting lease) (HasBooks books)
      (verify setting environment name)
      fun value state =>
        HasBooks books state ∧ Inspected setting name value state := by
  unfold verify
  refine ensures_bind inspect_keeps fun value => ?_
  refine ensures_bind ensures_observe fun found => ?_
  refine ensures_bind entryOf_keeps fun image => ?_
  refine ensures_bind refuseWrong_keeps fun _ => ?_
  refine ensures_bind entryOf_keeps fun expected => ?_
  refine ensures_bind refuseWrong_keeps fun _ => ?_
  refine ensures_bind refuseWrong_keeps fun _ => ?_
  refine ensures_bind refuseWrong_keeps fun _ => ?_
  refine ensures_pure ?_
  rintro state holding
    ⟨⟨⟨⟨⟨⟨⟨⟨hasBooks, text, last, parsed⟩, rfl⟩, owned⟩, identity⟩, known⟩,
      boundary⟩, networks⟩, mounts⟩
  exact
    ⟨hasBooks, text, image, expected, last, parsed,
      holding.inStep.images _ (mem_of_lookup owned),
      holding.inStep.expectations _ (mem_of_lookup known),
      ⟨identity, boundary, networks, mounts⟩⟩

/-! ## Containers -/

/-- The books without one name. -/
def Books.without (books : Books) (name : String) : Books :=
  (books.disown name).unexpect name

/-- `remove` proves the container gone before it forgets it. -/
theorem remove_keeps :
    Keeps (Holding setting lease) (HasBooks books)
      (remove setting environment name)
      fun _ => HasBooks (books.without name) := by
  unfold remove
  refine ensures_bind verify_keeps fun value => ?_
  refine ensures_bind idOf_keeps fun id => ?_
  have ready :
      ∀ state, Holding setting lease state →
        (HasBooks books state ∧ Inspected setting name value state) ∧
            subscript value "Id" = some (.text id) →
          Ready setting state (.remove id) := by
    rintro state _ ⟨⟨_, text, image, expected, ⟨earlier, last⟩, parsed,
      owned, known, view⟩, found⟩
    exact
      ⟨⟨earlier, name, text, last,
          ⟨value, image, expected, parsed, owned, known, view, found⟩⟩,
        nofun, nofun⟩
  refine ensures_bind (command_keeps ready) fun reply => ?_
  refine
    ensures_bind (command_keeps fun _ _ _ => ready_of_isPlain rfl)
      fun observed => ?_
  refine ensures_bind keeps_refuseWhen fun _ => ?_
  refine
    ensures_through (fun _ => HasBooks (books.disown name))
      (ensures_update ?_ ?_) fun _ => ?_
  · -- The three last commands show that the container is gone.
    rintro state holding ⟨⟨_, ⟨first, ⟨⟨hasBooks, text, image, expected,
      ⟨earlier, last⟩, parsed, owned, known, view⟩, found⟩, _, rfl⟩, _, rfl⟩,
      absent⟩
    have empty : observed = "" := by simpa using absent
    refine ⟨holding.lease_eq, holding.inStep.disown ⟨?_⟩⟩
    refine
      ⟨earlier, text, id, reply, [], ?_,
        ⟨value, image, expected, parsed, owned, known, view, found⟩, nofun⟩
    show (first.log ++ [_]) ++ [_] = _
    rw [last, empty]
    simp
  · rintro state holding ⟨⟨_, ⟨first, ⟨⟨hasBooks, _⟩, _⟩, _, rfl⟩, _, rfl⟩,
      _⟩
    show first.books.disown name = _
    rw [hasBooks]
  · refine
      ensures_bind
        (pause_keeps (fun _ => Holding.tick) fun _ ready => ready)
        fun _ => ?_
    refine ensures_update ?_ ?_
    · exact fun state holding _ =>
        ⟨holding.lease_eq, holding.inStep.unexpect⟩
    · intro state _ ready
      show state.books.unexpect name = _
      rw [ready]
      rfl

/-- `register` puts the name in the books. -/
theorem register_keeps
    {role image : String} {expected : Expected} :
    Keeps (Holding setting lease) (fun _ => True)
      (register setting environment role image expected)
      fun name state => name ∈ state.books.names := by
  unfold register
  refine
    ensures_through (fun _ _ => True)
      (((command_keeps fun _ _ _ => ready_of_isPlain rfl)).forget)
      fun imageId => ?_
  refine ensures_bind keeps_refuseWhen.forget fun _ => ?_
  have owned :
      ∀ state : State,
        containerName setting role ∈
          (state.own (containerName setting role) imageId).books.names :=
    fun state => List.mem_cons_self
  refine
    ensures_through
      (fun _ state => containerName setting role ∈ state.books.names)
      (ensures_update
        (fun _ holding _ => ⟨holding.lease_eq, holding.inStep.own⟩)
        fun state _ _ => owned state)
      fun _ => ?_
  refine
    ensures_bind
      (pause_keeps (fun _ => Holding.tick) fun _ ready => ready) fun _ => ?_
  refine
    ensures_through
      (fun _ state => containerName setting role ∈ state.books.names)
      (ensures_update
        (fun _ holding _ => ⟨holding.lease_eq, holding.inStep.expect⟩)
        fun _ _ ready => ready)
      fun _ => ?_
  refine
    ensures_bind
      (pause_keeps (fun _ => Holding.tick) fun _ ready => ready) fun _ => ?_
  exact ensures_pure fun _ _ ready => ready

/-! ## The run -/

/-- A statement that is fine whatever the books are. -/
theorem keeps_anyBooks
    {Value : Type} {program : Gate Value}
    {post : Books → Value → State → Prop}
    (each :
      ∀ books,
        Keeps (Holding setting lease) (HasBooks books) program
          (post books)) :
    Keeps (Holding setting lease) (fun _ => True) program
      fun _ _ => True := by
  intro state holding _
  exact (each state.books).forget state holding rfl

/-- The statement keeps the books and the commands in step. -/
abbrev Steady (setting : Setting) (lease : Option LeaseFile) {Value : Type}
    (program : Gate Value) : Prop :=
  Keeps (Holding setting lease) (fun _ => True) program fun _ _ => True

theorem Steady.andThen
    {Value Result : Type} {program : Gate Value}
    {next : Value → Gate Result}
    (first : Steady setting lease program)
    (second : ∀ value, Steady setting lease (next value)) :
    Steady setting lease (program >>= next) :=
  ensures_bind first second

theorem steady_pure {Value : Type} {value : Value} :
    Steady setting lease (pure value) :=
  ensures_pure fun _ _ _ => trivial

theorem steady_refuseWhen {condition : State → Bool} {error : Failure} :
    Steady setting lease (refuseWhen condition error) :=
  keeps_refuseWhen.forget

theorem steady_check {category : String} :
    Steady setting lease (check environment category) :=
  check_keeps (fun _ => Holding.tick) fun _ ready => ready

theorem steady_plain {issued : Command} (plain : issued.isPlain = true) :
    Steady setting lease (command environment issued) :=
  (command_keeps fun _ _ _ => ready_of_isPlain plain).forget

theorem steady_parseReply {text : String} :
    Steady setting lease (parseReply setting text) :=
  parseReply_keeps.forget

theorem steady_idOf {value : Json} : Steady setting lease (idOf value) :=
  idOf_keeps.forget

theorem steady_verify :
    Steady setting lease (verify setting environment name) :=
  keeps_anyBooks fun _ => verify_keeps

theorem steady_remove :
    Steady setting lease (remove setting environment name) :=
  keeps_anyBooks fun _ => remove_keeps

theorem steady_bindMount {path destination : String} :
    Steady setting lease (bindMount setting environment path destination) :=
  steady_check.andThen fun _ => steady_pure

/-- A container is created after its registration. -/
theorem steady_create
    {Value : Type} {role image : String} {expected : Expected}
    {options arguments : String → List String}
    {sequel : String → Gate Value}
    (rest : ∀ name, Steady setting lease (sequel name)) :
    Steady setting lease (do
      let name ← register setting environment role image expected
      let _ ←
        command environment
          (.create name image (options name) (arguments name))
      sequel name) := by
  refine ensures_bind register_keeps fun name => ?_
  have ready :
      ∀ state, Holding setting lease state → name ∈ state.books.names →
        Ready setting state
          (.create name image (options name) (arguments name)) := by
    intro state _ owned
    refine ⟨trivial, ?_, nofun⟩
    intro other _ _ _ same
    cases same
    exact owned
  exact ensures_bind (command_keeps ready).forget fun _ => rest name

theorem steady_createAm {role receiverId : String} :
    Steady setting lease (createAm setting environment role receiverId) := by
  unfold createAm
  refine steady_bindMount.andThen fun config => ?_
  refine steady_create fun name => ?_
  refine steady_verify.andThen fun view => ?_
  refine steady_refuseWhen.andThen fun _ => ?_
  refine steady_refuseWhen.andThen fun _ => ?_
  refine steady_idOf.andThen fun id => ?_
  exact (steady_plain rfl).andThen fun _ => steady_pure

theorem steady_initialiseVolume :
    Steady setting lease (initialiseVolume setting environment) := by
  unfold initialiseVolume
  refine steady_create fun name => ?_
  refine steady_verify.andThen fun _ => ?_
  refine (steady_plain rfl).andThen fun _ => ?_
  refine steady_verify.andThen fun view => ?_
  exact steady_refuseWhen.andThen fun _ => steady_remove

theorem steady_startReceiver :
    Steady setting lease (startReceiver setting environment) := by
  unfold startReceiver
  refine steady_bindMount.andThen fun fixture => ?_
  refine steady_create fun name => ?_
  refine steady_verify.andThen fun view => ?_
  refine steady_refuseWhen.andThen fun _ => ?_
  refine steady_idOf.andThen fun receiver => ?_
  exact (steady_plain rfl).andThen fun _ => steady_pure

theorem steady_driveStages {receiver : String} (stages : List String) :
    Steady setting lease
      (driveStages setting environment receiver stages) := by
  induction stages with
  | nil => exact steady_pure
  | cons stage rest induction =>
      refine (steady_plain rfl).andThen fun text => ?_
      refine steady_parseReply.andThen fun value => ?_
      refine steady_refuseWhen.andThen fun _ => ?_
      exact induction.andThen fun _ => steady_pure

theorem steady_crash :
    Steady setting lease (crash setting environment name) := by
  unfold crash
  refine (steady_plain rfl).andThen fun digest => ?_
  refine steady_refuseWhen.andThen fun _ => ?_
  refine steady_verify.andThen fun view => ?_
  refine steady_idOf.andThen fun id => ?_
  refine (steady_plain rfl).andThen fun _ => ?_
  refine steady_verify.andThen fun stopped => ?_
  exact steady_refuseWhen.andThen fun _ => steady_pure

theorem steady_round
    {receiver role : String} {stages : List String} {crashes : Bool} :
    Steady setting lease
      (round setting environment receiver role stages crashes) := by
  unfold round
  refine steady_createAm.andThen fun name => ?_
  refine (steady_driveStages stages).andThen fun values => ?_
  have rest :
      ∀ checkpoint : Option String,
        Steady setting lease (do
          remove setting environment name
          return (values, checkpoint)) :=
    fun _ => steady_remove.andThen fun _ => steady_pure
  cases crashes with
  | true =>
      exact steady_crash.andThen fun _ => steady_pure.andThen rest
  | false => exact steady_pure.andThen rest

theorem verifyVolume_keeps :
    Keeps (Holding setting lease) (HasBooks books)
      (verifyVolume setting environment)
      fun _ state =>
        HasBooks books state ∧
          ∃ text, LastReply .volumeInspect text state ∧
            VolumeVerified setting text := by
  unfold verifyVolume
  refine ensures_bind (plain_keeps rfl) fun text => ?_
  refine ensures_bind parseReply_keeps fun value => ?_
  split
  · rename_i clean
    exact
      ensures_pure fun _ _ ready =>
        ⟨ready.1.1, text, ready.1.2, value, ready.2, clean⟩
  · exact ensures_raise fun _ _ _ => trivial

/-- The volume is created only where the first command showed none. -/
theorem createVolume_keeps :
    Keeps (Holding setting lease) (fun state => state.log = [])
      (createVolume setting environment) fun _ _ => True := by
  unfold createVolume
  refine
    ensures_through
      (fun listed state => state.log = [⟨.volumeList, some listed⟩])
      ((command_keeps fun _ _ _ => ready_of_isPlain rfl).weakenPost ?_)
      fun listed => ?_
  · rintro listed _ _ ⟨first, empty, _, rfl⟩
    show first.log ++ _ = _
    rw [empty]
    rfl
  refine
    ensures_through
      (fun _ state => state.log.head? = some ⟨.volumeList, some ""⟩)
      (keeps_refuseWhen.weakenPost ?_) fun _ => ?_
  · rintro _ state _ ⟨log, none⟩
    have empty : listed = "" := by simpa using none
    rw [log, empty]
    rfl
  refine
    ensures_bind
      (pause_keeps (fun _ => Holding.tick) fun _ ready => ready) fun _ => ?_
  refine
    ensures_through (fun _ state => state.books.volumeIntent = true)
      (ensures_update ?_ fun _ _ _ => rfl) fun _ => ?_
  · intro state holding vacant
    exact
      ⟨holding.lease_eq,
        holding.inStep.rebook rfl (fun _ => id) (fun _ => id)
          (fun _ => .inl) holding.inStep.images holding.inStep.expectations
          (fun _ => rfl) fun _ => vacant⟩
  have ready :
      ∀ state, Holding setting lease state →
        state.books.volumeIntent = true →
          Ready setting state
            (.volumeCreate
              ["com.kairos.scope=alertmanager-durable-state-v1",
                "com.kairos.alert-policy-sha256=" ++ setting.policyHash]) :=
    fun _ _ intended => ⟨trivial, nofun, fun _ _ => intended⟩
  refine ensures_bind (command_keeps ready).forget fun _ => ?_
  exact keeps_anyBooks fun _ => verifyVolume_keeps

theorem run_keeps :
    Keeps (Holding setting lease) (fun state => state.log = [])
      (run setting environment) fun _ _ => True := by
  unfold run
  refine ensures_bind createVolume_keeps fun _ => ?_
  refine steady_initialiseVolume.andThen fun _ => ?_
  refine steady_startReceiver.andThen fun receiver => ?_
  refine steady_round.andThen fun first => ?_
  refine steady_round.andThen fun second => ?_
  refine steady_round.andThen fun third => ?_
  exact steady_refuseWhen.andThen fun _ => steady_pure

/-! ## Cleanup -/

theorem names_without {other : String}
    (kept : other ∈ (books.without name).names) :
    other ∈ books.names ∧ other ≠ name := by
  rcases List.mem_map.1 kept with ⟨entry, inside, rfl⟩
  have parts := List.mem_filter.1 inside
  exact ⟨List.mem_map_of_mem parts.1, of_decide_eq_true parts.2⟩

theorem names_foldl_without {names : List String} {other : String}
    (kept : other ∈ (names.foldl Books.without books).names) :
    other ∈ books.names ∧ other ∉ names := by
  induction names generalizing books with
  | nil => exact ⟨kept, List.not_mem_nil⟩
  | cons first rest induction =>
      have later := induction kept
      have now := names_without later.1
      exact ⟨now.1, fun inside => (List.mem_cons.1 inside).elim now.2 later.2⟩

theorem volumeIntent_foldl_without (names : List String) :
    (names.foldl Books.without books).volumeIntent = books.volumeIntent := by
  induction names generalizing books with
  | nil => rfl
  | cons first rest induction => exact induction

theorem removeAll_keeps (names : List String) :
    Keeps (Holding setting lease) (HasBooks books)
      (removeAll setting environment names)
      fun _ => HasBooks (names.foldl Books.without books) := by
  induction names generalizing books with
  | nil => exact ensures_pure fun _ _ ready => ready
  | cons first rest induction =>
      exact ensures_bind remove_keeps fun _ => induction

/-- Once the books are empty, every container is gone. -/
theorem InStep.containers_removed
    {state : State} (inStep : InStep setting state)
    (empty : ∀ name, name ∉ state.books.names) :
    ∀ name, (∃ entry ∈ state.log, entry.creates name) →
      Removed setting state name :=
  fun name created =>
    (inStep.booked name created).resolve_left (empty name)

/-- `cleanup` returns only if everything is gone. -/
theorem cleanup_keeps :
    Keeps (Holding setting lease) (fun _ => True)
      (cleanup setting environment) fun _ => Cleaned setting := by
  unfold cleanup
  refine ensures_bind ensures_observe fun books => ?_
  refine
    ensures_bind
      ((removeAll_keeps books.names).weakenPre fun _ _ ready =>
        ready.2.symm)
      fun _ => ?_
  have empty :
      ∀ state, HasBooks (books.names.foldl Books.without books) state →
        ∀ name, name ∉ state.books.names := by
    intro state hasBooks name inside
    rw [hasBooks] at inside
    have parts := names_foldl_without inside
    exact parts.2 parts.1
  have intent :
      ∀ state, HasBooks (books.names.foldl Books.without books) state →
        state.books.volumeIntent = books.volumeIntent := by
    intro state hasBooks
    rw [hasBooks]
    exact volumeIntent_foldl_without _
  refine ensures_ite (fun intended => ?_) fun unintended => ?_
  · refine ensures_bind verifyVolume_keeps fun _ => ?_
    refine ensures_bind (command_keeps ?_) fun reply => ?_
    · rintro state holding ⟨hasBooks, text, ⟨earlier, last⟩, verified⟩
      have vacant :=
        holding.inStep.vacant ((intent state hasBooks).trans intended)
      exact ⟨⟨⟨earlier, text, last, verified⟩, vacant⟩, nofun, nofun⟩
    refine
      ensures_bind (command_keeps fun _ _ _ => ready_of_isPlain rfl)
        fun listed => ?_
    refine keeps_refuseWhen.weakenPost ?_
    rintro _ _ holding ⟨⟨_, ⟨first, ⟨hasBooks, text, ⟨earlier, last⟩,
      verified⟩, _, rfl⟩, _, rfl⟩, absent⟩
    have gone : listed = "" := by simpa using absent
    refine
      ⟨holding.inStep.containers_removed (empty first hasBooks),
        fun _ => ⟨earlier, text, reply, ?_, verified⟩⟩
    show (first.log ++ [_]) ++ [_] = _
    rw [last, gone]
    simp
  · refine ensures_pure fun state holding hasBooks => ?_
    refine
      ⟨holding.inStep.containers_removed (empty state hasBooks),
        fun created => ?_⟩
    have intended := holding.inStep.intended created
    rw [intent state hasBooks] at intended
    exact absurd intended unintended

/-! ## The whole -/

theorem attempted_keeps :
    Keeps (Holding setting lease) (fun state => state.log = [])
      (attempted setting environment) fun _ _ => True :=
  ensures_bind run_keeps fun _ => steady_check

/-- The cleanup counts as done only if it returned. -/
theorem attemptAndClean_keeps :
    Keeps (Holding setting lease) (fun state => state.log = [])
      (attemptAndClean setting environment)
      fun result state => result.2 = true → Cleaned setting state := by
  unfold attemptAndClean
  refine
    ensures_bind
      (ensures_caught
        (pause_keeps (fun _ => Holding.tick) fun _ ready => ready))
      fun unprepared => ?_
  cases unprepared with
  | some failure => exact ensures_pure fun _ _ _ => nofun
  | none =>
      refine ensures_bind (ensures_caught attempted_keeps) fun failure => ?_
      refine
        ensures_bind
          ((ensures_caught cleanup_keeps).weakenPre fun _ _ _ => trivial)
          fun uncleaned => ?_
      refine ensures_pure fun state _ ready cleaned => ?_
      cases uncleaned with
      | none => exact ready
      | some error => cases cleaned

/-- The lease is to be removed only after a cleanup. -/
theorem releases_keeps {cleaned : Bool}
    (stable : ∀ state, before state → before state.tick) :
    Keeps (Holding setting lease) before (releases setting environment cleaned)
      fun released state =>
        before state ∧ (released = true → cleaned = true) := by
  unfold releases
  refine ensures_ite (fun done => ?_) fun _ => ?_
  · refine
      ensures_bind (pause_keeps (fun _ => Holding.tick) stable) fun _ => ?_
    refine ensures_bind ensures_observe fun found => ?_
    cases found with
    | none => exact ensures_raise fun _ _ _ => trivial
    | some file =>
        refine ensures_bind parseReply_keeps fun value => ?_
        exact ensures_pure fun _ _ ready => ⟨ready.1.1, fun _ => done⟩
  · exact ensures_pure fun _ _ ready => ⟨ready, nofun⟩

/-- Until the lease is removed, the run has issued nothing or holds a lease
that it created. -/
def Leased (setting : Setting) (initial : Option LeaseFile) (state : State) :
    Prop :=
  (Holding setting initial state ∧ state.log = []) ∨
    (initial = none ∧ ∃ text, Holding setting (some ⟨true, text⟩) state)

theorem Leased.guarded
    {initial : Option LeaseFile} {state : State}
    (leased : Leased setting initial state) : Guarded setting state := by
  rcases leased with ⟨holding, _⟩ | ⟨_, text, holding⟩
  · exact holding.inStep.guarded
  · exact holding.inStep.guarded

/-- Nothing was issued yet. -/
def Idle (setting : Setting) (initial : Option LeaseFile) (state : State) :
    Prop :=
  Holding setting initial state ∧ state.log = []

theorem Idle.tick
    {initial : Option LeaseFile} {state : State}
    (idle : Idle setting initial state) : Idle setting initial state.tick :=
  ⟨idle.1.tick, idle.2⟩

theorem Leased.tick
    {initial : Option LeaseFile} {state : State}
    (leased : Leased setting initial state) :
    Leased setting initial state.tick := by
  rcases leased with ⟨holding, quiet⟩ | ⟨vacant, text, holding⟩
  · exact .inl ⟨holding.tick, quiet⟩
  · exact .inr ⟨vacant, text, holding.tick⟩

theorem Cleaned.tick {state : State} (cleaned : Cleaned setting state) :
    Cleaned setting state.tick where
  containers := fun name created =>
    (cleaned.containers name created).mono rfl (fun _ => id) fun _ => id
  volume := cleaned.volume

/-- The exclusive creation passes only where there is no lease. -/
theorem createLease_keeps {initial : Option LeaseFile} :
    Keeps (Leased setting initial) (Idle setting initial)
      (createLease setting environment)
      fun _ state =>
        (Holding setting (some ⟨true, leaseText setting⟩) state ∧
            state.log = []) ∧
          initial = none := by
  unfold createLease
  refine ensures_bind keeps_refuseWhen fun _ => ?_
  have vacant :
      ∀ state : State,
        Idle setting initial state ∧ state.lease.isSome = false →
          initial = none := by
    rintro state ⟨idle, free⟩
    rw [idle.1.lease_eq] at free
    simpa using free
  have created :
      ∀ state (file : LeaseFile), Idle setting initial state →
        Holding setting (some file)
          { state with lease := some file }.tick := by
    intro state file idle
    exact
      ⟨rfl,
        (idle.1.inStep.rebook rfl (fun _ => id) (fun _ => id)
          (fun _ => .inl) idle.1.inStep.images idle.1.inStep.expectations
          id idle.1.inStep.vacant)⟩
  refine keeps_perform ?_ ?_
  · intro state extent leased ready
    have none := vacant state ready
    cases extent with
    | nothing => exact .inl ready.1.tick
    | part count =>
        exact .inr ⟨none, _, created state ⟨true, _⟩ ready.1⟩
    | whole => exact .inr ⟨none, _, created state ⟨true, _⟩ ready.1⟩
  · intro state _ ready
    exact
      ⟨⟨created state ⟨true, leaseText setting⟩ ready.1, ready.1.2⟩,
        vacant state ready⟩

/-- What `execute` knows before it may remove the lease. -/
structure Concluded (setting : Setting) (initial : Option LeaseFile)
    (result : Report × Bool) (state : State) : Prop where
  vacant : initial = none
  own : ∃ text, state.lease = some ⟨true, text⟩
  cleaned : result.1.cleanupVerified = true → Cleaned setting state
  released : result.2 = true → result.1.cleanupVerified = true

theorem conclude_keeps {initial : Option LeaseFile} :
    Keeps (Leased setting initial) (Idle setting initial)
      (conclude setting environment) (Concluded setting initial) := by
  unfold conclude
  refine
    ensures_bind (keeps_refuseWhen.weakenPost fun _ _ _ ready => ready.1)
      fun _ => ?_
  refine
    ensures_bind (check_keeps (fun _ => Leased.tick) fun _ => Idle.tick)
      fun _ => ?_
  refine ensures_bind createLease_keeps fun _ => ?_
  refine ensures_assuming fun vacant => ?_
  -- From here on the lease is the run's own.
  have leased :
      ∀ state, Holding setting (some ⟨true, leaseText setting⟩) state →
        Leased setting initial state :=
    fun _ holding => .inr ⟨vacant, _, holding⟩
  refine keeps_inside (ensures_bind attemptAndClean_keeps ?_) leased
  rintro ⟨failure, cleaned⟩
  have stable :
      ∀ state : State, (cleaned = true → Cleaned setting state) →
        cleaned = true → Cleaned setting state.tick :=
    fun _ clean done => (clean done).tick
  refine
    ensures_bind (pause_keeps (fun _ => Holding.tick) stable) fun _ => ?_
  refine ensures_bind (releases_keeps stable) fun released => ?_
  refine ensures_pure ?_
  rintro state holding ⟨done, earned⟩
  exact ⟨vacant, ⟨_, holding.lease_eq⟩, done, earned⟩

/-- `execute` is `conclude`, and then the lease is removed or not. -/
theorem execute_eq (state : State) :
    execute setting environment state =
      match conclude setting environment state with
      | (.returned (report, released), later) =>
          (.returned report, if released then later.unlinkLease else later)
      | (.raised error, later) => (.raised error, later)
      | (.killed, later) => (.killed, later) := by
  show Program.andThen _ _ state = _
  unfold Program.andThen
  rcases conclude setting environment state with ⟨ending, later⟩
  cases ending with
  | returned result =>
      rcases result with ⟨report, released⟩
      cases released with
      | true => rfl
      | false => rfl
  | raised error => rfl
  | killed => rfl

theorem idle_initial (initial : Option LeaseFile) :
    Idle setting initial (State.initial initial) := by
  refine ⟨⟨rfl, ⟨?_, ?_, nofun, nofun, ?_, nofun⟩⟩, rfl⟩
  · intro before entry after split
    cases before <;> cases split
  · rintro name ⟨entry, inside, _⟩
    cases inside
  · rintro ⟨entry, inside, _⟩
    cases inside

/-- Where there is a lease, `execute` issues nothing and does not return. -/
structure Excluded (held : LeaseFile)
    (outcome : Ending Failure Report × State) : Prop where
  refused : ∀ report, outcome.1 ≠ .returned report
  quiet : outcome.2.log = []
  kept : outcome.2.lease = some held

theorem execute_excluded (held : LeaseFile) :
    Excluded held
      (execute setting environment (State.initial (some held))) := by
  have kept :
      Keeps (Leased setting (some held)) (Idle setting (some held))
        (conclude setting environment) (Concluded setting (some held)) :=
    conclude_keeps
  have ends :=
    kept _ (.inl (idle_initial (some held))) (idle_initial (some held))
  rw [execute_eq]
  have idle :
      ∀ state, Leased setting (some held) state →
        state.log = [] ∧ state.lease = some held := by
    rintro state (⟨holding, quiet⟩ | ⟨vacant, _⟩)
    · exact ⟨quiet, holding.lease_eq⟩
    · cases vacant
  revert ends
  rcases conclude setting environment (State.initial (some held)) with
    ⟨ending, later⟩
  cases ending with
  | returned result => exact fun ends => nomatch ends.2.vacant
  | raised error =>
      exact fun ends => ⟨nofun, (idle later ends.1).1, (idle later ends.1).2⟩
  | killed =>
      exact fun ends => ⟨nofun, (idle later ends).1, (idle later ends).2⟩

/-- Cleanup is never claimed falsely. -/
structure CleanupTruthful (setting : Setting) (initial : Option LeaseFile)
    (outcome : Ending Failure Report × State) : Prop where
  /-- A verified cleanup is one of a run under its own lease. -/
  reported :
    ∀ report, outcome.1 = .returned report →
      report.cleanupVerified = true →
        initial = none ∧ Cleaned setting outcome.2
  /-- Otherwise the lease is left in place, unless nothing was issued. -/
  retained :
    (∀ report, outcome.1 = .returned report →
        report.cleanupVerified = false) →
      (outcome.2.lease = initial ∧ outcome.2.log = []) ∨
        (initial = none ∧ ∃ text, outcome.2.lease = some ⟨true, text⟩)
  /-- A lease that is left in place excludes every later run. -/
  excludes :
    ∀ held, outcome.2.lease = some held →
      ∀ later environment,
        Excluded held
          (execute later environment (State.initial (some held)))
  guarded : Guarded setting outcome.2

theorem Leased.retained
    {initial : Option LeaseFile} {state : State}
    (leased : Leased setting initial state) :
    (state.lease = initial ∧ state.log = []) ∨
      (initial = none ∧ ∃ text, state.lease = some ⟨true, text⟩) := by
  rcases leased with ⟨holding, quiet⟩ | ⟨vacant, text, holding⟩
  · exact .inl ⟨holding.lease_eq, quiet⟩
  · exact .inr ⟨vacant, text, holding.lease_eq⟩

/-- The removal of the lease keeps what is known of the containers. -/
theorem Cleaned.unlinkLease {state : State}
    (cleaned : Cleaned setting state) :
    Cleaned setting state.unlinkLease where
  containers := fun name created =>
    (cleaned.containers name created).mono rfl (fun _ => id) fun _ => id
  volume := cleaned.volume

end

theorem execute_truthful (setting : Setting) (environment : Environment)
    (initial : Option LeaseFile) :
    CleanupTruthful setting initial
      (execute setting environment (State.initial initial)) := by
  have idle : Idle setting initial (State.initial initial) :=
    idle_initial initial
  have kept :
      Keeps (Leased setting initial) (Idle setting initial)
        (conclude setting environment) (Concluded setting initial) :=
    conclude_keeps
  have ends := kept _ (.inl idle) idle
  rw [execute_eq]
  revert ends
  rcases conclude setting environment (State.initial initial) with
    ⟨ending, later⟩
  cases ending with
  | returned result =>
      rcases result with ⟨report, released⟩
      rintro ⟨leased, concluded⟩
      refine ⟨?_, ?_, fun _ _ _ _ => execute_excluded _, ?_⟩
      · rintro _ same verified
        cases same
        refine ⟨concluded.vacant, ?_⟩
        have cleaned := concluded.cleaned verified
        cases released with
        | true => exact cleaned.unlinkLease
        | false => exact cleaned
      · intro unverified
        cases released with
        | true =>
            have verified := concluded.released rfl
            rw [unverified report rfl] at verified
            cases verified
        | false => exact leased.retained
      · cases released with
        | true =>
            exact
              leased.guarded.mono rfl (fun _ => id) fun _ => id
        | false => exact leased.guarded
  | raised error =>
      rintro ⟨leased, _⟩
      exact
        ⟨nofun, fun _ => leased.retained, fun _ _ _ _ => execute_excluded _,
          leased.guarded⟩
  | killed =>
      intro leased
      exact
        ⟨nofun, fun _ => leased.retained, fun _ _ _ _ => execute_excluded _,
          leased.guarded⟩

end KairosDeploy.Alerts.StateGate
