import Socketeer.Foundation.Multimap
import Socketeer.Message

/-! # Connection options

The options of a connection, their builder, and the upgrade request built from
them. The names and the values of headers are parameters, and so are what else
is in a request and how `tungstenite` makes one from a URL.
-/

namespace Socketeer

open Foundation

variable {N V H E : Type} [DecidableEq N]

abbrev HeaderMap (N V : Type) := Multimap N V

/-- Durations are in milliseconds. -/
structure ConnectOptions (N V : Type) where
  extraHeaders : HeaderMap N V
  keepaliveInterval : Option Nat
  customKeepaliveMessage : Option Message

def ConnectOptions.default : ConnectOptions N V where
  extraHeaders := ∅
  keepaliveInterval := some 2000
  customKeepaliveMessage := none

/-- `http::Request<()>`, with its method, URI and version as one. -/
structure Request (H N V : Type) where
  head : H
  headers : HeaderMap N V

/-- `ConnectOptions::build_request`. -/
def ConnectOptions.buildRequest (options : ConnectOptions N V)
    (intoClientRequest : String → Except E (Request H N V)) (url : String) :
    Except (Error E) (Request H N V) :=
  match intoClientRequest url with
  | .ok request =>
      .ok { request with headers := request.headers.insertEach options.extraHeaders.iter }
  | .error e => .error (.websocketError e)

structure ConnectOptionsBuilder (N V : Type) where
  options : ConnectOptions N V

/-- The setters of `ConnectOptionsBuilder`. -/
inductive Setter (N V : Type) where
  | keepaliveInterval (interval : Option Nat)
  | header (name : N) (value : V)
  | headers (headers : HeaderMap N V)
  | customKeepaliveMessage (message : Option Message)

namespace ConnectOptionsBuilder

/-- `ConnectOptions::builder`. -/
def create : ConnectOptionsBuilder N V where
  options := .default

def call (builder : ConnectOptionsBuilder N V) : Setter N V → ConnectOptionsBuilder N V
  | .keepaliveInterval interval =>
      { builder with options.keepaliveInterval := interval }
  | .header name value =>
      { builder with options.extraHeaders := builder.options.extraHeaders.insert name value }
  | .headers headers => { builder with options.extraHeaders := headers }
  | .customKeepaliveMessage message =>
      { builder with options.customKeepaliveMessage := message }

def build (builder : ConnectOptionsBuilder N V) : ConnectOptions N V :=
  builder.options

end ConnectOptionsBuilder

/-- The options that a sequence of calls on a builder ends in. -/
def ConnectOptions.configured (calls : List (Setter N V)) : ConnectOptions N V :=
  (calls.foldl ConnectOptionsBuilder.call .create).build

/-- Whether a call decides the values of a header. -/
def Setter.sets (name : N) : Setter N V → Bool
  | .header other _ => other = name
  | .headers _ => true
  | .keepaliveInterval _ | .customKeepaliveMessage _ => false

/-- The last call that decides the values of the header gives it several. -/
def SetsSeveral (calls : List (Setter N V)) (name : N) : Prop :=
  ∃ front headers back, calls = front ++ .headers headers :: back ∧
    1 < (headers.getAll name).length ∧ ∀ call ∈ back, call.sets name = false

namespace ConnectOptions

open Multimap

/-- One more call of the builder. -/
theorem configured_concat (calls : List (Setter N V)) (call : Setter N V) :
    configured (calls ++ [call]) =
      (ConnectOptionsBuilder.call ⟨configured calls⟩ call).build := by
  unfold configured
  rw [List.foldl_append]
  rfl

/-- A call that does not decide the values of a header keeps them. -/
theorem configured_concat_of_not_sets (calls : List (Setter N V)) {call : Setter N V} {name : N}
    (other : call.sets name = false) :
    (configured (calls ++ [call])).extraHeaders.getAll name =
      (configured calls).extraHeaders.getAll name := by
  rw [configured_concat]
  cases call with
  | keepaliveInterval _ | customKeepaliveMessage _ => rfl
  | header other' value =>
      have different : other' ≠ name := by simpa [Setter.sets] using other
      exact getAll_insert_of_ne (Ne.symm different) value
  | headers _ => cases other

/-- Calls for other names leave the values of a name alone. -/
theorem configured_append_of_not_sets (calls back : List (Setter N V)) {name : N}
    (others : ∀ call ∈ back, call.sets name = false) :
    (configured (calls ++ back)).extraHeaders.getAll name =
      (configured calls).extraHeaders.getAll name := by
  induction back using List.reverseRecOn with
  | nil => rw [List.append_nil]
  | append_singleton back call ih =>
      rw [← List.append_assoc, configured_concat_of_not_sets, ih]
      · exact fun call member => others call (List.mem_append_left _ member)
      · exact others call (List.mem_append_right _ (List.mem_singleton_self _))

/-- A header has several values when the last call that decides them says so. -/
theorem several_iff (calls : List (Setter N V)) (name : N) :
    1 < ((configured calls).extraHeaders.getAll name).length ↔ SetsSeveral calls name := by
  constructor
  · intro several
    induction calls using List.reverseRecOn with
    | nil => cases several
    | append_singleton calls call ih =>
        cases sets : call.sets name with
        | false =>
            rw [configured_concat_of_not_sets calls sets] at several
            obtain ⟨front, headers, back, rfl, many, others⟩ := ih several
            refine ⟨front, headers, back ++ [call], by simp, many, fun later member => ?_⟩
            rcases List.mem_append.mp member with old | new
            · exact others later old
            · rwa [List.mem_singleton.mp new]
        | true =>
            rw [configured_concat] at several
            cases call with
            | header other value =>
                obtain rfl : other = name := by simpa [Setter.sets] using sets
                change 1 < ((Multimap.insert _ other value).getAll other).length at several
                rw [getAll_insert_self] at several
                simp at several
            | headers headers => exact ⟨calls, headers, [], rfl, several, nofun⟩
            | keepaliveInterval _ | customKeepaliveMessage _ => cases sets
  · rintro ⟨front, headers, back, rfl, several, others⟩
    have parts : front ++ Setter.headers headers :: back = front ++ [.headers headers] ++ back := by
      simp
    rw [parts, configured_append_of_not_sets _ _ others, configured_concat]
    exact several

/-- A header of the request has the value configured last, if there is one, and
what `tungstenite` gave it otherwise. -/
theorem getAll_buildRequest (options : ConnectOptions N V)
    {intoClientRequest : String → Except E (Request H N V)} {url : String}
    {request : Request H N V} (made : intoClientRequest url = .ok request) :
    ∃ sent, options.buildRequest intoClientRequest url = .ok sent ∧ sent.head = request.head ∧
      ∀ name, sent.headers.getAll name =
        match (options.extraHeaders.getAll name).getLast? with
        | some value => [value]
        | none => request.headers.getAll name := by
  unfold buildRequest
  rw [made]
  refine ⟨_, rfl, rfl, fun name => ?_⟩
  rw [getAll_insertEach, valuesOf_iter]
  rfl

/-- The last of several values is not all of them. -/
private theorem last_eq_iff {values : List V} (nonempty : values ≠ []) (others : List V) :
    (match values.getLast? with
      | some value => [value]
      | none => others) = values ↔ ¬ 1 < values.length := by
  obtain ⟨front, last, rfl⟩ := (List.eq_nil_or_concat' values).resolve_left nonempty
  simp only [List.getLast?_concat, List.length_append, List.length_singleton]
  constructor
  · intro same
    have lengths := congrArg List.length same
    rw [List.length_append, List.length_singleton] at lengths
    omega
  · intro single
    have empty : front = [] := List.eq_nil_of_length_eq_zero (by omega)
    rw [empty, List.nil_append]

/-- Every header of the options reaches the request with all its values, and
every other header keeps its own, if and only if no header is last decided by a
`headers` call whose map has several values for it. -/
theorem headers_reach_request_iff (calls : List (Setter N V))
    {intoClientRequest : String → Except E (Request H N V)} {url : String}
    {request : Request H N V} (made : intoClientRequest url = .ok request) :
    (∃ sent, (configured calls).buildRequest intoClientRequest url = .ok sent ∧
        (∀ name ∈ (configured calls).extraHeaders,
          sent.headers.getAll name = (configured calls).extraHeaders.getAll name) ∧
        ∀ name ∉ (configured calls).extraHeaders,
          sent.headers.getAll name = request.headers.getAll name) ↔
      ∀ name, ¬ SetsSeveral calls name := by
  obtain ⟨sent, built, _, headers⟩ := (configured calls).getAll_buildRequest made
  have absent : ∀ name ∉ (configured calls).extraHeaders,
      sent.headers.getAll name = request.headers.getAll name := by
    intro name outside
    have empty : (configured calls).extraHeaders.getAll name = [] := by
      simpa [mem_iff_getAll] using outside
    rw [headers, empty]
    rfl
  have present : ∀ name ∈ (configured calls).extraHeaders,
      (sent.headers.getAll name = (configured calls).extraHeaders.getAll name ↔
        ¬ SetsSeveral calls name) := by
    intro name inside
    rw [← several_iff, headers]
    exact last_eq_iff (mem_iff_getAll.mp inside) _
  constructor
  · rintro ⟨sent', built', reach, _⟩ name several
    obtain rfl := Except.ok.inj (built.symm.trans built')
    have inside : name ∈ (configured calls).extraHeaders := by
      rw [mem_iff_getAll]
      intro empty
      have lengths := (several_iff calls name).mpr several
      rw [empty] at lengths
      cases lengths
    exact (present name inside).mp (reach name inside) several
  · intro single
    exact ⟨sent, built, fun name inside => (present name inside).mpr (single name), absent⟩

/-- Two cookies, for one header. -/
def cookies : HeaderMap String String :=
  AList.insert "cookie" ⟨["a=1", "b=2"], List.cons_ne_nil _ _⟩ ∅

/-- A request without headers. -/
def bareRequest (url : String) : Except Unit (Request String String String) :=
  .ok { head := url, headers := ∅ }

/-- Of two values of a name the request has the last. -/
theorem second_cookie_lost :
    ∃ sent, (configured [.headers cookies]).buildRequest bareRequest "ws://localhost" = .ok sent ∧
      (configured [.headers cookies]).extraHeaders.getAll "cookie" = ["a=1", "b=2"] ∧
      sent.headers.getAll "cookie" = ["b=2"] :=
  ⟨_, rfl, by decide, by decide⟩

theorem headers_reach_request_iff_cookie :
    bareRequest "ws://localhost" = .ok { head := "ws://localhost", headers := ∅ } ∧
      ∃ sent, (configured [.header "cookie" "a=1"]).buildRequest bareRequest "ws://localhost" =
          .ok sent ∧
        (∀ name ∈ (configured [.header "cookie" "a=1"]).extraHeaders,
          sent.headers.getAll name =
            (configured [.header "cookie" "a=1"]).extraHeaders.getAll name) ∧
        ∀ name ∉ (configured [.header "cookie" "a=1"]).extraHeaders,
          sent.headers.getAll name = (∅ : HeaderMap String String).getAll name := by
  have made : bareRequest "ws://localhost" = .ok { head := "ws://localhost", headers := ∅ } := rfl
  refine ⟨made, (headers_reach_request_iff [.header "cookie" "a=1"] made).mpr ?_⟩
  rintro name ⟨front, headers, back, parts, _⟩
  have member : Setter.headers headers ∈ [Setter.header "cookie" "a=1"] := by
    rw [parts]
    simp
  simp at member

end ConnectOptions

end Socketeer
