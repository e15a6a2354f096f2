import Socketeer.Handles.Connections

/-! # Lines of connections

`reconnect` gives back a handle of another connection, made with the settings of
the one it replaces. The connections that replace one another are a line, which
begins with the one a `connect` made (`World.founder`). A whole line has the
settings of that `connect`, and at most one handle of it receives, however often
the handles are split, cloned, recombined and reconnected
(`World.reconnects_alike`).
-/

set_option linter.dupNamespace false

namespace Socketeer

open Foundation

variable {U N V C H R E : Type}

/-- What a `connect` is given that a `reconnect` keeps. The handler is none of it:
`on_disconnected` and `on_connected` may change it. -/
structure Settings (N V C : Type) where
  url : String
  options : ConnectOptions N V
  codec : C

section

variable [DecidableEq N]

/-- A connection was made with the settings, from the request for their URL, and its
task was spawned with them. -/
structure Made.StartedAs (externals : Externals U N V R E) (settings : Settings N V C)
    (made : Made N V C H R E) : Prop where
  options : made.options = settings.options
  codec : made.codec = settings.codec
  requests : ∃ url request left, externals.parse settings.url = .ok url ∧
    externals.parse made.url = .ok url ∧
    settings.options.buildRequest externals.intoClientRequest (externals.asStr url) =
      .ok request ∧
    made.network request made.handler = .ok left
  keepaliveInterval : made.task.keepaliveInterval = settings.options.keepaliveInterval
  keepaliveMessage : made.task.keepaliveMessage = settings.options.customKeepaliveMessage

end

/-- What a handle has of the settings it has as they were given. -/
def Handle.Keeps (externals : Externals U N V R E) (settings : Settings N V C) :
    Handle U N V C H → Prop
  | .socketeer self | .reconnecting self =>
      externals.parse settings.url = .ok self.url ∧ self.options = settings.options ∧
        self.codec = settings.codec
  | .tx self => self.codec = settings.codec
  | .rx self =>
      externals.parse settings.url = .ok self.url ∧ self.options = settings.options ∧
        self.codec = settings.codec

namespace World

/-- The founders after one more operation. The next connection founds a line if
`connect` makes it, and is of the line of the one it replaces if `reconnect`
does. -/
def foundersAfter (founders : ConnId → ConnId) :
    World U N V C H R E × Operation U N V C H R E → ConnId → ConnId
  | (w, .connect ..) => Function.update founders w.connections.named w.connections.named
  | (w, .reconnected name _ _) =>
      match w.handles.find name with
      | some (.reconnecting self) =>
          Function.update founders w.connections.named (founders self.terminalError.slot)
      | _ => founders
  | (_, .split _) | (_, .clone _) | (_, .drop _) | (_, .reunite _ _) | (_, .reconnect _) => founders

/-- The connection that the line of a connection began with. -/
def founder (trace : List (World U N V C H R E × Operation U N V C H R E)) : ConnId → ConnId :=
  trace.foldl foundersAfter id

variable {w w' : World U N V C H R E} {operation : Operation U N V C H R E} {conn : ConnId}
  {trace : List (World U N V C H R E × Operation U N V C H R E)}

/-- The founders after one more operation. -/
theorem founder_snoc (entry : World U N V C H R E × Operation U N V C H R E) :
    founder (trace ++ [entry]) = foundersAfter (founder trace) entry :=
  List.foldl_concat _ _ _ _

/-- A connection stays in its line. -/
theorem founder_of_lt (old : conn < w.connections.named) :
    founder (trace ++ [(w, operation)]) conn = founder trace conn := by
  have away : conn ≠ w.connections.named := Nat.ne_of_lt old
  rw [founder_snoc]
  cases operation with
  | connect => exact Function.update_of_ne away _ _
  | reconnected name =>
      cases there : w.handles.find name with
      | none => simp only [foundersAfter, there]
      | some handle =>
          cases handle with
          | reconnecting self =>
              simp only [foundersAfter, there]
              exact Function.update_of_ne away _ _
          | socketeer | tx | rx => simp only [foundersAfter, there]
  | split | clone | drop | reunite | reconnect => rfl

/-- A `connect` founds a line of its own. -/
theorem founder_connect {url : String} {options : ConnectOptions N V} {codec : C} {handler : H}
    {network : Request R N V → H → Except (Error E) H} {address : Nat} :
    founder (trace ++ [(w, .connect url options codec handler network address)])
      w.connections.named = w.connections.named := by
  rw [founder_snoc]
  exact Function.update_self _ _ _

/-- A `reconnect` continues the line of what it replaces. -/
theorem founder_reconnected {name : HandleName} {self : Socketeer U N V C H}
    {network : Request R N V → H → Except (Error E) H} {address : Nat}
    (there : w.handles.find name = some (.reconnecting self)) :
    founder (trace ++ [(w, .reconnected name network address)]) w.connections.named =
      founder trace self.terminalError.slot := by
  rw [founder_snoc]
  simp only [foundersAfter, there]
  exact Function.update_self _ _ _

/-- Something of the same connection was held that had the same settings, and
that received if this does. -/
def Stems (externals : Externals U N V R E) (w : World U N V C H R E)
    (handle : Handle U N V C H) : Prop :=
  ∃ name before, w.handles.find name = some before ∧
    before.terminalError.slot = handle.terminalError.slot ∧
    (handle.receives = true → before.receives = true) ∧
    ∀ settings, before.Keeps externals settings → handle.Keeps externals settings

/-- A handle stems from itself. -/
theorem Stems.held {externals : Externals U N V R E} {name : HandleName}
    {handle : Handle U N V C H} (there : w.handles.find name = some handle) :
    w.Stems externals handle :=
  ⟨name, handle, there, rfl, id, fun _ => id⟩

variable [DecidableEq N] {externals : Externals U N V R E}

/-- A `connect` of the run was given the settings and made the connection. -/
def Founds (externals : Externals U N V R E)
    (trace : List (World U N V C H R E × Operation U N V C H R E)) (conn : ConnId)
    (settings : Settings N V C) : Prop :=
  ∃ before after operation handler network address,
    operation =
      .connect settings.url settings.options settings.codec handler network address ∧
    (before, operation) ∈ trace ∧ before.step externals operation = some after ∧
    before.connections.named = conn ∧ after.connections.named = conn + 1

/-- A line has its founder whatever happens later. -/
theorem Founds.append {settings : Settings N V C} (founds : Founds externals trace conn settings)
    (entry : World U N V C H R E × Operation U N V C H R E) :
    Founds externals (trace ++ [entry]) conn settings := by
  obtain ⟨before, after, operation, handler, network, address, same, called, rest⟩ := founds
  exact ⟨before, after, operation, handler, network, address, same,
    List.mem_append_left _ called, rest⟩

/-- The task is spawned with the keepalive settings that the call is given. -/
theorem connectWithCodec_task {address : Nat} {url : String} {options : ConnectOptions N V}
    {codec : C} {handler : H} {network : Request R N V → H → Except (Error E) H}
    {socketeer : Socketeer U N V C H} {task : Task}
    (connected : connectWithCodec externals conn address url options codec handler network =
      .ok (socketeer, task)) :
    task.keepaliveInterval = options.keepaliveInterval ∧
      task.keepaliveMessage = options.customKeepaliveMessage := by
  obtain ⟨_, _, connected⟩ := bind_eq_ok connected
  obtain ⟨_, _, connected⟩ := bind_eq_ok connected
  obtain ⟨_, _, connected⟩ := bind_eq_ok connected
  cases connected
  exact ⟨rfl, rfl⟩

/-- A connection that is there has been there before or is the next one. -/
theorem made_cases (rule : Rule externals w operation w') {made : Made N V C H R E}
    (present : w'.connections.find conn = some made) :
    w.connections.find conn = some made ∨ conn = w.connections.named := by
  cases rule with
  | connected | reconnected =>
      rcases Registry.find_add_cases present with ⟨next, _⟩ | before
      · exact .inr next
      · exact .inl before
  | failed | refused | drop | lost | split | clone | reunited | reconnecting => exact .inl present

/-- Connections are not numbered twice. -/
theorem connections_le (rule : Rule externals w operation w') :
    w.connections.named ≤ w'.connections.named := by
  cases rule with
  | connected | reconnected => exact Nat.le_succ _
  | failed | refused | drop | lost | split | clone | reunited | reconnecting => exact Nat.le_refl _

/-- What is held stems from what was held, or is of the next connection. -/
theorem stems (sound : Sound externals w) (rule : Rule externals w operation w') {name : HandleName}
    {handle : Handle U N V C H} (there : w'.handles.find name = some handle) :
    (handle.terminalError.slot < w.connections.named ∧ w.Stems externals handle) ∨
      handle.terminalError.slot = w.connections.named := by
  have earlier : w.Stems externals handle → handle.terminalError.slot < w.connections.named := by
    rintro ⟨_, before, held, slot, _⟩
    exact slot ▸ sound.slot_lt held
  refine Or.imp_left (fun stem => ⟨earlier stem, stem⟩) ?_
  cases rule with
  | connected _ made =>
      rcases Registry.find_add_cases there with ⟨_, rfl⟩ | before
      · exact .inr (connectWithCodec_ok made).1.slot
      · exact .inl (.held before)
  | failed | refused => exact .inl (.held there)
  | split whole =>
      rcases Registry.find_add_cases there with ⟨_, rfl⟩ | before
      · exact .inl ⟨_, _, whole, rfl, fun _ => rfl, fun _ => id⟩
      · rcases Registry.find_set_cases before with ⟨_, rfl, _⟩ | ⟨_, before⟩
        · exact .inl ⟨_, _, whole, rfl, nofun, fun _ kept => kept.2.2⟩
        · exact .inl (.held before)
  | clone sender =>
      rcases Registry.find_add_cases there with ⟨_, rfl⟩ | before
      · exact .inl ⟨_, _, sender, rfl, id, fun _ => id⟩
      · exact .inl (.held before)
  | drop | lost => exact .inl (.held (Registry.find_remove_cases there).2)
  | @reunited _ _ receiver sender whole half half' reunites =>
      rcases Registry.find_set_cases there with ⟨_, rfl, _⟩ | ⟨_, before⟩
      · obtain ⟨_, rfl⟩ := reunite_ok reunites
        exact .inl ⟨_, _, half, rfl, fun _ => rfl, fun _ => id⟩
      · exact .inl (.held (Registry.find_remove_cases before).2)
  | reconnecting whole =>
      rcases Registry.find_set_cases there with ⟨_, rfl, _⟩ | ⟨_, before⟩
      · exact .inl ⟨_, _, whole, rfl, fun _ => rfl, fun _ => id⟩
      · exact .inl (.held before)
  | reconnected _ _ made =>
      rcases Registry.find_add_cases there with ⟨_, rfl⟩ | before
      · exact .inr (connectWithCodec_ok made).1.slot
      · exact .inl (.held (Registry.find_remove_cases before).2)

/-- What is known of the lines after a run. -/
structure Lines (externals : Externals U N V R E)
    (trace : List (World U N V C H R E × Operation U N V C H R E)) (w : World U N V C H R E) :
    Prop where
  earlier : ∀ {conn settings}, Founds externals trace conn settings → conn < w.connections.named
  one : ∀ {conn settings other}, Founds externals trace conn settings →
    Founds externals trace conn other → other = settings
  founded : ∀ {conn made}, w.connections.find conn = some made → ∃ settings,
    Founds externals trace (founder trace conn) settings ∧ made.StartedAs externals settings ∧
    ∀ name handle, w.handles.find name = some handle → handle.terminalError.slot = conn →
      handle.Keeps externals settings
  alone : ∀ {name other handle handle'}, w.handles.find name = some handle →
    w.handles.find other = some handle' →
    founder trace handle.terminalError.slot = founder trace handle'.terminalError.slot →
    handle.receives = true → handle'.receives = true → name = other

/-- What founds a line after one more operation did so before, or that operation
does. -/
theorem founds_cases {settings : Settings N V C}
    (founds : Founds externals (trace ++ [(w, operation)]) conn settings)
    (step : w.step externals operation = some w') :
    Founds externals trace conn settings ∨
      conn = w.connections.named ∧ w'.connections.named = conn + 1 ∧
        ∃ handler network address, operation =
          .connect settings.url settings.options settings.codec handler network address := by
  obtain ⟨before, after, connect, handler, network, address, same, called, steps, here, next⟩ :=
    founds
  rcases List.mem_append.mp called with earlier | last
  · exact .inl ⟨before, after, connect, handler, network, address, same, earlier, steps, here,
      next⟩
  · obtain ⟨rfl, rfl⟩ := Prod.mk.inj (List.mem_singleton.mp last)
    obtain rfl := Option.some.inj (steps.symm.trans step)
    exact .inr ⟨here.symm, next, handler, network, address, same⟩

namespace Lines

/-- A new connection is of the line it should be, and so is its handle. -/
theorem enters (reads : ∀ url, externals.parse (externals.asStr url) = .ok url)
    (sound : Sound externals w) (lines : Lines externals trace w)
    (step : w.step externals operation = some w') {made : Made N V C H R E}
    (present : w'.connections.find w.connections.named = some made) :
    ∃ settings, Founds externals (trace ++ [(w, operation)])
        (founder (trace ++ [(w, operation)]) w.connections.named) settings ∧
      made.StartedAs externals settings ∧
      ∀ name handle, w'.handles.find name = some handle →
        handle.terminalError.slot = w.connections.named → handle.Keeps externals settings := by
  have absent {made : Made N V C H R E}
      (there : w.connections.find w.connections.named = some made) : False :=
    Nat.lt_irrefl _ (Registry.lt_named there)
  cases step_rule step with
  | @connected url options codec handler network address socketeer task free connected =>
      obtain ⟨parses, given, kept, request, requests, left⟩ :=
        (connectWithCodec_ok connected).1.settings
      obtain ⟨interval, message⟩ := connectWithCodec_task connected
      refine ⟨⟨url, options, codec⟩, ?_, ?_, ?_⟩
      · rw [founder_connect]
        exact ⟨w, _, _, handler, network, address, rfl,
          List.mem_append_right _ (List.mem_singleton_self _), step, rfl, rfl⟩
      · obtain rfl := Option.some.inj (Registry.find_add_self.symm.trans present)
        exact ⟨rfl, rfl, ⟨_, request, _, parses, parses, requests, left⟩, interval, message⟩
      · intro name handle there slot
        rcases Registry.find_add_cases there with ⟨_, rfl⟩ | before
        · exact ⟨parses, given, kept⟩
        · exact absurd slot (Nat.ne_of_lt (sound.slot_lt before))
  | @reconnected name network address socketeer task self there free connected =>
      obtain ⟨parses, given, kept, request, requests, left⟩ :=
        (connectWithCodec_ok connected).1.settings
      obtain ⟨interval, message⟩ := connectWithCodec_task connected
      have url := Except.ok.inj ((reads self.url).symm.trans parses)
      obtain ⟨_, old, _⟩ := sound.belongs name _ there
      obtain ⟨settings, founds, _, keeps⟩ := lines.founded old
      obtain ⟨parsed, options, codec⟩ := keeps name _ there rfl
      have parsed' : externals.parse settings.url = .ok socketeer.url :=
        parsed.trans (congrArg _ url)
      refine ⟨settings, ?_, ?_, ?_⟩
      · rw [founder_reconnected there]
        exact founds.append _
      · obtain rfl := Option.some.inj (Registry.find_add_self.symm.trans present)
        rw [options] at requests interval message
        exact ⟨options, codec, ⟨_, request, _, parsed', parses, requests, left⟩, interval,
          message⟩
      · intro other handle held slot
        rcases Registry.find_add_cases held with ⟨_, rfl⟩ | before
        · exact ⟨parsed', given.trans options, kept.trans codec⟩
        · exact absurd slot (Nat.ne_of_lt (sound.slot_lt (Registry.find_remove_cases before).2))
  | failed | refused | drop | lost | split | clone | reunited | reconnecting =>
      exact (absent present).elim

/-- Nothing else that receives is of the line of a new connection. -/
theorem apart (lines : Lines externals trace w) (sound : Sound externals w)
    (sound' : Sound externals w')
    (step : w.step externals operation = some w') {name other : HandleName}
    {handle handle' : Handle U N V C H} (there : w'.handles.find name = some handle)
    (there' : w'.handles.find other = some handle')
    (next : handle.terminalError.slot = w.connections.named)
    (before : handle'.terminalError.slot < w.connections.named)
    (receives : handle'.receives = true) :
    founder (trace ++ [(w, operation)]) handle.terminalError.slot ≠
      founder (trace ++ [(w, operation)]) handle'.terminalError.slot := by
  have present := sound'.slot_lt there
  rw [next, founder_of_lt before]
  rw [next] at present
  cases step_rule step with
  | @connected url options codec handler network address socketeer task free connected =>
      rw [founder_connect]
      rcases Registry.find_add_cases there' with ⟨_, rfl⟩ | held
      · exact absurd (connectWithCodec_ok connected).1.slot (Nat.ne_of_lt before)
      · obtain ⟨_, made, _⟩ := sound.belongs other _ held
        obtain ⟨_, founds, _⟩ := lines.founded made
        exact (Nat.ne_of_lt (lines.earlier founds)).symm
  | @reconnected name' network address socketeer task self replaced free connected =>
      rw [founder_reconnected replaced]
      intro same
      rcases Registry.find_add_cases there' with ⟨_, rfl⟩ | held
      · exact absurd (connectWithCodec_ok connected).1.slot (Nat.ne_of_lt before)
      · obtain ⟨away, held⟩ := Registry.find_remove_cases held
        exact away (lines.alone held replaced same.symm receives rfl)
  | failed | refused | drop | lost | split | clone | reunited | reconnecting =>
      exact absurd present (Nat.lt_irrefl _)

/-- A connection is founded once. -/
theorem one_step (lines : Lines externals trace w) (step : w.step externals operation = some w')
    {settings other : Settings N V C}
    (founds : Founds externals (trace ++ [(w, operation)]) conn settings)
    (founds' : Founds externals (trace ++ [(w, operation)]) conn other) : other = settings := by
  rcases founds_cases founds step with before | ⟨rfl, _, _, _, _, called⟩
  · rcases founds_cases founds' step with before' | ⟨rfl, _⟩
    · exact lines.one before before'
    · exact absurd (lines.earlier before) (Nat.lt_irrefl _)
  · rcases founds_cases founds' step with before' | ⟨_, _, _, _, _, called'⟩
    · exact absurd (lines.earlier before') (Nat.lt_irrefl _)
    · obtain ⟨url, options, codec, _⟩ := Operation.connect.inj (called'.symm.trans called)
      obtain ⟨_, _, _⟩ := settings
      obtain ⟨_, _, _⟩ := other
      cases url
      cases options
      cases codec
      rfl

/-- What was made before has its settings still, and so has what is held of it. -/
theorem founded_step (sound : Sound externals w) (lines : Lines externals trace w)
    (rule : Rule externals w operation w') {made : Made N V C H R E}
    (before : w.connections.find conn = some made) :
    ∃ settings, Founds externals (trace ++ [(w, operation)])
        (founder (trace ++ [(w, operation)]) conn) settings ∧
      made.StartedAs externals settings ∧
      ∀ name handle, w'.handles.find name = some handle → handle.terminalError.slot = conn →
        handle.Keeps externals settings := by
  obtain ⟨settings, founds, started, kept⟩ := lines.founded before
  have old := Registry.lt_named before
  refine ⟨settings, ?_, started, fun name handle there slot => ?_⟩
  · rw [founder_of_lt old]
    exact founds.append _
  · rcases stems sound rule there with ⟨_, name', stem, there', slot', _, keeps⟩ | next
    · exact keeps settings (kept name' stem there' (slot'.trans slot))
    · exact absurd (slot.symm.trans next) (Nat.ne_of_lt old)

/-- Two handles of a line do not both receive after the operation either: what
is not of the next connection received before. -/
theorem alone_step (sound : Sound externals w) (lines : Lines externals trace w)
    (step : w.step externals operation = some w') {name other : HandleName}
    {handle handle' : Handle U N V C H} (there : w'.handles.find name = some handle)
    (there' : w'.handles.find other = some handle')
    (line : founder (trace ++ [(w, operation)]) handle.terminalError.slot =
      founder (trace ++ [(w, operation)]) handle'.terminalError.slot)
    (receives : handle.receives = true) (receives' : handle'.receives = true) : name = other := by
  have rule := step_rule step
  have sound' := sound.step rule
  have owned := sound'.owner there there'
  rcases stems sound rule there with ⟨old, _, stem, held, slot, passes, _⟩ | next
  · rcases stems sound rule there' with ⟨old', _, stem', held', slot', passes', _⟩ | next'
    · rw [founder_of_lt old, founder_of_lt old', ← slot, ← slot'] at line
      obtain rfl := lines.alone held held' line (passes receives) (passes' receives')
      obtain rfl := Option.some.inj (held.symm.trans held')
      exact owned (slot.symm.trans slot') receives receives'
    · exact absurd line.symm (lines.apart sound sound' step there' there next' old receives)
  · rcases stems sound rule there' with ⟨old', _⟩ | next'
    · exact absurd line (lines.apart sound sound' step there there' next old' receives')
    · exact owned (next.trans next'.symm) receives receives'

/-- An operation keeps what is known of the lines. -/
theorem step (reads : ∀ url, externals.parse (externals.asStr url) = .ok url)
    (sound : Sound externals w) (lines : Lines externals trace w)
    (step : w.step externals operation = some w') :
    Lines externals (trace ++ [(w, operation)]) w' := by
  have rule := step_rule step
  constructor
  · intro conn settings founds
    rcases founds_cases founds step with before | ⟨_, next, _⟩
    · exact (lines.earlier before).trans_le (connections_le rule)
    · rw [next]
      exact Nat.lt_succ_self _
  · exact lines.one_step step
  · intro conn made present
    rcases made_cases rule present with before | rfl
    · exact lines.founded_step sound rule before
    · exact lines.enters reads sound step present
  · exact lines.alone_step sound step

end Lines

/-- What is known of the lines holds after every run. -/
theorem lines (reads : ∀ url, externals.parse (externals.asStr url) = .ok url)
    (run : (world externals C H).Run (world externals C H).init trace w) :
    Lines externals trace w := by
  induction run with
  | nil =>
      constructor
      · rintro conn settings ⟨_, _, _, _, _, _, _, called, _⟩
        cases called
      · rintro conn settings other ⟨_, _, _, _, _, _, _, called, _⟩
        cases called
      · intro conn made present
        cases present
      · intro name other handle handle' there
        cases there
  | snoc earlier step ih =>
      exact ih.step reads (sound ⟨_, earlier⟩) step

/-- A line of connections, however long, is that of one `connect`: every
connection of it is made, from the request for the URL and the options that the
call was given, and its task spawned with its keepalive settings, and whatever is
held of it has its settings. At most one handle of a line receives, so a
`reconnect` leaves no receive half behind. -/
theorem reconnects_alike (reads : ∀ url, externals.parse (externals.asStr url) = .ok url)
    (run : (world externals C H).Run (world externals C H).init trace w) :
    (∀ conn made, w.connections.find conn = some made → ∃ settings,
      (∀ other, Founds externals trace (founder trace conn) other ↔ other = settings) ∧
      made.StartedAs externals settings ∧
      ∀ name handle, w.handles.find name = some handle → w.Belongs externals handle conn →
        handle.Keeps externals settings) ∧
    ∀ name other handle handle' conn conn', w.handles.find name = some handle →
      w.handles.find other = some handle' → w.Belongs externals handle conn →
      w.Belongs externals handle' conn' →
      founder trace conn = founder trace conn' → handle.receives = true →
      handle'.receives = true → name = other := by
  have lines := lines reads run
  constructor
  · intro conn made present
    obtain ⟨settings, founds, started, keeps⟩ := lines.founded present
    refine ⟨settings, fun other => ?_, started, ?_⟩
    · constructor
      · exact lines.one founds
      · rintro rfl
        exact founds
    · exact fun name handle there belongs => keeps name handle there belongs.slot
  · intro name other handle handle' conn conn' there there' belongs belongs' line
    obtain rfl := belongs.slot
    obtain rfl := belongs'.slot
    exact lines.alone there there' line

/-- The new connection is of the line of the old one and has its settings. -/
theorem reconnects_alike_keptClone :
    let machine := world anyUrl Unit Unit
    let trace := machine.steps machine.init keptClone
    let w := machine.follow machine.init keptClone
    ∃ made, w.connections.find 1 = some made ∧
      Founds anyUrl trace 0 ⟨"ws://localhost", .default, ()⟩ ∧
      made.StartedAs anyUrl ⟨"ws://localhost", .default, ()⟩ := by
  intro machine trace w
  have run : machine.Run machine.init trace w := machine.run_steps machine.init keptClone
  have here : Founds anyUrl trace 0 ⟨"ws://localhost", .default, ()⟩ :=
    ⟨_, _, _, _, _, _, rfl, List.mem_cons_self, rfl, rfl, rfl⟩
  obtain ⟨settings, only, started, _⟩ := (reconnects_alike (fun _ => rfl) run).1 1 _ rfl
  obtain rfl := (only _).mp here
  exact ⟨_, rfl, here, started⟩

end World

end Socketeer
