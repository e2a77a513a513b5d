import Mathlib.Data.List.TakeWhile
import NodeBridge.Proofs.Bridge.Construction
import NodeBridge.Proofs.Config.Independence

/-
This file compares the check of an endpoint with the connection that is made to it later.
Both read the text of the endpoint, but the check looks at its ending first and the connection
looks at its scheme first.
-/

namespace NodeBridge.Url

variable {source : String} {parsed : Url} {rest : List Char}

/-- What stands at the front without blanks stays at the front. -/
theorem cleanAppend (start rest : List Char) (nonempty : start ≠ [])
    (solid : ∀ character ∈ start, ¬ isEdge character ∧ ¬ isDropped character) :
    ∃ more, clean (start ++ rest) = start ++ more := by
  obtain ⟨first, others, rfl⟩ := List.exists_cons_of_ne_nil nonempty
  have front : (first :: others ++ rest).dropWhile isEdge = first :: others ++ rest :=
    List.dropWhile_cons_of_neg (solid first List.mem_cons_self).1
  have back : ∃ more, ((first :: others ++ rest).reverse.dropWhile isEdge).reverse =
      first :: others ++ more := by
    rw [List.reverse_append, List.dropWhile_append]
    split
    · have kept : (first :: others).reverse.dropWhile isEdge = (first :: others).reverse :=
        List.dropWhile_eq_self_iff.mpr fun inside =>
          (solid _ (List.mem_reverse.mp (List.getElem_mem inside))).1
      exact ⟨[], by rw [kept, List.reverse_reverse, List.append_nil]⟩
    · exact ⟨(rest.reverse.dropWhile isEdge).reverse, by simp⟩
  obtain ⟨more, trimmed⟩ := back
  have undropped : (first :: others).filter (fun character => !isDropped character) =
      first :: others :=
    List.filter_eq_self.mpr fun character member => by simp [(solid character member).2]
  refine ⟨more.filter fun character => !isDropped character, ?_⟩
  rw [clean, front, trimmed, List.filter_append, undropped]

/-- The scheme is known once a URL was read. -/
theorem schemeOfParse (read : parse? source = some parsed) :
    ∃ name rest, splitScheme? (clean source.toList) = some (name, rest) ∧
      Scheme.ofName? name = some parsed.scheme := by
  simp only [parse?, Option.bind_eq_bind, Option.bind_eq_some_iff, Prod.exists] at read
  obtain ⟨name, rest, split, scheme, known, hostAndPort, _, found⟩ := read
  refine ⟨name, rest, split, ?_⟩
  split at found
  · contradiction
  · simp only [Option.bind_eq_some_iff] at found
    obtain ⟨host, _, port, _, built⟩ := found
    exact Option.some.inj built ▸ known

/-- Whatever begins with a scheme begins with a letter. -/
theorem letterOfSplit {first : Char} {pair : List Char × List Char}
    (split : splitScheme? (first :: rest) = some pair) : first.isAlpha := by
  simp only [splitScheme?, List.takeWhile_cons] at split
  split at split
  case h_1 =>
    split at split
    case isTrue =>
      split at split
      case isTrue letter => exact letter
      case isFalse => contradiction
    case isFalse => contradiction
  case h_2 => contradiction

/-- A URL begins with a letter, if it does not begin with a blank. -/
theorem beginsWithLetter {first : Char} (read : parse? source = some parsed)
    (begins : source.toList = first :: rest) (solid : ¬ isEdge first ∧ ¬ isDropped first) :
    first.isAlpha := by
  obtain ⟨more, cleaned⟩ := cleanAppend [first] rest (by simp) (by simpa using solid)
  obtain ⟨name, afterColon, split, _⟩ := schemeOfParse read
  rw [begins, ← List.singleton_append, cleaned] at split
  exact letterOfSplit split

/-- The name of the own machine is no scheme. -/
theorem localIsNoScheme (begins : source.startsWith "localhost:") : parse? source = none := by
  obtain ⟨rest, same⟩ := String.startsWith_string_iff.mp begins
  have solid : "localhost:".toList.all fun character => !isEdge character && !isDropped character :=
    rfl
  obtain ⟨more, cleaned⟩ := cleanAppend "localhost:".toList rest (by decide) (by simpa using solid)
  cases read : parse? source with
  | none => rfl
  | some parsed =>
      obtain ⟨name, afterColon, split, known⟩ := schemeOfParse read
      have whole : splitScheme? ("localhost:".toList ++ more) = some ("localhost".toList, more) :=
        rfl
      rw [← same, cleaned, whole] at split
      obtain ⟨rfl, rfl⟩ := Prod.mk.inj (Option.some.inj split)
      have unknown : Scheme.ofName? "localhost".toList = none := by decide
      rw [unknown] at known
      contradiction

end NodeBridge.Url

namespace NodeBridge.Network.SocketAddress

variable {characters : List Char}

/-- The codes of digits lie before those of letters. -/
theorem digitNoLetter {character : Char} (digit : 48 ≤ character.toNat ∧ character.toNat ≤ 57) :
    ¬ character.isAlpha := by
  have before (letter : Char) (high : 57 < letter.toNat) : ¬ letter.val ≤ character.val := by
    rw [UInt32.le_iff_toNat_le]
    exact Nat.not_le.mpr (Nat.lt_of_le_of_lt digit.2 high)
  intro isLetter
  rcases Bool.or_eq_true_iff.mp isLetter with upper | lower
  · exact before 'A' (by decide) (of_decide_eq_true upper).1
  · exact before 'a' (by decide) (of_decide_eq_true (Bool.and_eq_true_iff.mp lower).1)

/-- A decimal number begins with a digit. -/
theorem digitOfNumber {width : Option Nat} {leadingZeros : Bool} {bound : Nat}
    {found : Nat × List Char} (read : number? 10 width leadingZeros bound characters = some found) :
    ∃ first rest, characters = first :: rest ∧ 48 ≤ first.toNat ∧ first.toNat ≤ 57 := by
  cases characters with
  | nil => simp [number?] at read
  | cons first rest =>
      refine ⟨first, rest, rfl, ?_⟩
      cases value : Hex.value? first with
      | none => simp [number?, value] at read
      | some digit =>
          by_cases small : digit < 10
          · simp only [Hex.value?] at value
            grind
          · simp [number?, value, small] at read

/-- A socket address begins with a digit or with a bracket. -/
theorem beginning {source : String} (read : (parse? source).isSome) :
    ∃ first rest, source.toList = first :: rest ∧
      (first = '[' ∨ 48 ≤ first.toNat ∧ first.toNat ≤ 57) := by
  obtain ⟨address, found⟩ := Option.isSome_iff_exists.mp read
  unfold parse? at found
  split at found
  case h_1 inner bracket => exact ⟨_, _, bracket, .inl rfl⟩
  case h_2 =>
    simp only [octets?, Option.bind_eq_bind, Option.bind_eq_some_iff] at found
    obtain ⟨_, ⟨_, number, _⟩, _⟩ := found
    obtain ⟨first, rest, begins, digit⟩ := digitOfNumber number
    exact ⟨first, rest, begins, .inr digit⟩

end NodeBridge.Network.SocketAddress

namespace NodeBridge.Bridge.Endpoint

open Config (Setting isPubsubEndpoint)

variable {url : String}

/-- A text that is a URL already is not given another scheme. -/
theorem withSchemeOfParse {parsed : Url} (read : Url.parse? url = some parsed) :
    withScheme url = url := by
  rw [withScheme, if_neg]
  intro abbreviated
  rcases Bool.or_eq_true_iff.mp abbreviated with begins | address
  · rw [Url.localIsNoScheme begins] at read
    contradiction
  · obtain ⟨first, rest, begins, bracket | digit⟩ := Network.SocketAddress.beginning address
    · subst bracket
      have letter := Url.beginsWithLetter read begins (by decide)
      contradiction
    · have solid : ¬ Url.isEdge first ∧ ¬ Url.isDropped first := by
        simp only [Url.isEdge, Url.isDropped, decide_eq_true_eq, Bool.or_eq_true]
        refine ⟨by omega, ?_⟩
        rintro ((rfl | rfl) | rfl) <;> simp at digit
      exact Network.SocketAddress.digitNoLetter digit (Url.beginsWithLetter read begins solid)

/-- Nothing but requests can be sent to such a text. -/
def SentOverHttp (url : String) : Prop :=
  ∃ parsed, Url.parse? url = some parsed ∧ (parsed.scheme = .http ∨ parsed.scheme = .https)

/-- Only HTTP cannot carry subscriptions. -/
theorem requestOnlyIff (url : String) :
    (ofText url).isPubsub = false ↔ SentOverHttp (withScheme url) := by
  rw [ofText, SentOverHttp]
  cases Url.parse? (withScheme url) with
  | none => simp [isPubsub]
  | some parsed => cases scheme : parsed.scheme <;> simp [isPubsub, scheme]

/-- A URL for streams is reached over a stream. -/
theorem streamOfParse {parsed : Url} (read : Url.parse? url = some parsed)
    (scheme : parsed.scheme = .ws ∨ parsed.scheme = .wss) : ofText url = .stream url := by
  rw [ofText, withSchemeOfParse read, read]
  rcases scheme with scheme | scheme <;> simp [scheme]

/-- The endpoint is reported by the check of the endpoint and by no other. -/
theorem reportedIff (config : Config) :
    .unsupportedEndpoint config.rpc.url ∈ config.problems ↔
      isPubsubEndpoint config.rpc.url = false := by
  rw [Config.problems, List.mem_filterMap]
  constructor
  · rintro ⟨setting, _, reported⟩
    have verdict := setting.verdict config
    rw [reported] at verdict
    -- No other setting is blamed with a problem of this kind.
    cases setting <;> cases verdict
    case endpoint.unfit broken => exact Bool.eq_false_iff.mpr (mt (Setting.endpointFits _).mp broken)
  · intro refused
    exact ⟨.endpoint, Setting.memAll _, by simp [Setting.problem?, refused]⟩

/-- Whatever is accepted for something other than its ending is reached over a stream. -/
theorem streamOfAccepted (accepted : isPubsubEndpoint url = true)
    (ending : url.endsWith ".ipc" = false) : ofText url = .stream url := by
  rcases (Setting.endpointFits url).mp accepted with ends | ⟨parsed, read, scheme⟩
  · rw [ending] at ends
    contradiction
  · exact streamOfParse read scheme

/-- This is where the check and the connection disagree. -/
theorem misledIff (url : String) :
    isPubsubEndpoint url = true ∧ (ofText url).isPubsub = false ↔
      url.endsWith ".ipc" = true ∧ SentOverHttp (withScheme url) := by
  rw [requestOnlyIff]
  refine ⟨fun ⟨accepted, sent⟩ => ⟨?_, sent⟩, fun ⟨ending, sent⟩ => ⟨?_, sent⟩⟩
  · refine Bool.not_eq_false _ |>.mp fun other => ?_
    have silent := (requestOnlyIff url).mpr sent
    rw [streamOfAccepted accepted other] at silent
    contradiction
  · exact (Setting.endpointFits url).mpr (.inl ending)

/-- A URL for requests is accepted for its ending alone. -/
theorem acceptedOverHttp (sent : SentOverHttp url) :
    isPubsubEndpoint url = true ↔ url.endsWith ".ipc" = true := by
  obtain ⟨parsed, read, scheme⟩ := sent
  rw [Setting.endpointFits]
  refine ⟨?_, .inl⟩
  rintro (ends | ⟨other, same, stream⟩)
  · exact ends
  · obtain rfl := Option.some.inj (read.symm.trans same)
    rcases scheme with scheme | scheme <;> simp [scheme] at stream

/-- A bridge takes from its endpoint whether it can subscribe. -/
theorem pubsubOfConnect {find : String → Except FileTree.ReadError FileTree} {node : Heads.Node}
    {config : Config} {contact : String → Contact} {bridge : Bridge}
    (built : (connect find node config contact).1 = .ok bridge) :
    bridge.pubsub = (ofText config.rpc.url).isPubsub := by
  delta connect at built
  generalize dial find contact config.rpc.callTimeout (ofText config.rpc.url) = dialled at built
  generalize Staking.Facade.ofConfig config = found at built
  match dialled, found with
  | .error _, _ => exact nomatch built
  | .ok _, .error _ => exact nomatch built
  | .ok _, .ok facade =>
      obtain rfl := Except.ok.inj built
      simp only [start]

/-- A bridge is built from a valid configuration as soon as its endpoint was reached. -/
theorem connectsOnceReached {find : String → Except FileTree.ReadError FileTree}
    {contact : String → Contact} {config : Config} (node : Heads.Node)
    (reached : (ofText config.rpc.url).dial find contact config.rpc.callTimeout = .ok ())
    (valid : config.problems = []) :
    ∃ bridge, (connect find node config contact).1 = .ok bridge ∧
      bridge.pubsub = (ofText config.rpc.url).isPubsub := by
  obtain ⟨⟨facade, built, _⟩, _⟩ := usable valid
  have connected : ∃ bridge, (connect find node config contact).1 = .ok bridge := by
    delta connect
    rw [reached, built]
    exact ⟨_, rfl⟩
  obtain ⟨bridge, connected⟩ := connected
  exact ⟨bridge, connected, pubsubOfConnect connected⟩

/-- Nothing is sent over HTTP before the first request, so the endpoint is reached at once. -/
theorem reachedOverHttp (find : String → Except FileTree.ReadError FileTree)
    (contact : String → Contact) (timeout : UInt64) {endpoint : Endpoint}
    (sent : endpoint.isPubsub = false) : endpoint.dial find contact timeout = .ok () := by
  cases endpoint with
  | requests => rfl
  | stream | socket => contradiction

/-- A stream that is made in time is reached, if there is any time. -/
theorem reachedOverStream (find : String → Except FileTree.ReadError FileTree)
    {contact : String → Contact} {timeout : UInt64} (patient : 0 < timeout.toNat)
    (made : contact url = some (.ok ())) :
    (Endpoint.stream url).dial find contact timeout = .ok () := by
  have unlimited : timeout ≠ 0 := fun none => absurd (none ▸ patient) (by decide)
  rw [dial, if_neg unlimited, made]

/-- A bridge that cannot subscribe makes no attempt that could succeed. -/
structure Deaf (bridge : Bridge) : Prop where
  pubsub : bridge.pubsub = false
  refused : ∀ now name client, ∃ error,
    Heads.beginOpen bridge.pubsub bridge.openLimit now name client = (.failed error, client)

theorem deafOfPubsub {bridge : Bridge} (pubsub : bridge.pubsub = false) : Deaf bridge := by
  refine ⟨pubsub, fun now name client => ?_⟩
  rw [pubsub, Heads.beginOpen]
  split
  · exact ⟨_, rfl⟩
  · exact ⟨_, rfl⟩

/-- This is what the check of an endpoint is worth to the connection that is made to it. -/
structure Checked (url : String) : Prop where
  /-- Whatever is not accepted is reported. -/
  reported : ∀ config : Config, config.rpc.url = url →
    (.unsupportedEndpoint url ∈ config.problems ↔ isPubsubEndpoint url = false)
  /-- A URL for requests is accepted exactly if it ends like a path, and it stays one for requests. -/
  overHttp : SentOverHttp url →
    (isPubsubEndpoint url = true ↔ url.endsWith ".ipc" = true) ∧ (ofText url).isPubsub = false
  /-- Whatever is accepted for its scheme is a stream. -/
  streams : isPubsubEndpoint url = true → url.endsWith ".ipc" = false → ofText url = .stream url
  /-- These are the endpoints that are accepted and cannot carry subscriptions. -/
  misled : isPubsubEndpoint url = true ∧ (ofText url).isPubsub = false ↔
    url.endsWith ".ipc" = true ∧ SentOverHttp (withScheme url)
  /-- A bridge takes from its endpoint whether it can subscribe. -/
  connected : ∀ find node (config : Config) contact bridge, config.rpc.url = url →
    (connect find node config contact).1 = .ok bridge → bridge.pubsub = (ofText url).isPubsub
  /-- What is accepted for its scheme and answers in time gives a bridge that can subscribe. -/
  hears : isPubsubEndpoint url = true → url.endsWith ".ipc" = false →
    ∀ find node (config : Config) contact, config.rpc.url = url → config.problems = [] →
      contact url = some (.ok ()) →
      ∃ bridge, (connect find node config contact).1 = .ok bridge ∧ bridge.pubsub = true
  /-- An endpoint for requests is connected to all the same, and the bridge never subscribes. -/
  deaf : (ofText url).isPubsub = false →
    ∀ find node (config : Config) contact, config.rpc.url = url → config.problems = [] →
      ∃ bridge, (connect find node config contact).1 = .ok bridge ∧ Deaf bridge

/-- What the check accepts can carry subscriptions, unless it is a URL for requests that ends like
the path of a local socket. -/
theorem endpointsAreChecked (url : String) : Checked url where
  reported := by
    rintro config rfl
    exact reportedIff config
  overHttp sent := by
    refine ⟨acceptedOverHttp sent, ?_⟩
    obtain ⟨parsed, read, scheme⟩ := sent
    rw [requestOnlyIff, withSchemeOfParse read]
    exact ⟨parsed, read, scheme⟩
  streams := streamOfAccepted
  misled := misledIff url
  connected := by
    rintro find node config contact bridge rfl built
    exact pubsubOfConnect built
  hears := by
    rintro accepted ending find node config contact rfl valid made
    have stream := streamOfAccepted accepted ending
    have patient := Config.Setting.zeroFits.mp (Config.fits valid .callTimeout)
    have reached := reachedOverStream find patient made
    rw [← stream] at reached
    obtain ⟨bridge, built, pubsub⟩ := connectsOnceReached node reached valid
    rw [stream] at pubsub
    exact ⟨bridge, built, pubsub⟩
  deaf := by
    rintro sent find node config contact rfl valid
    have reached := reachedOverHttp find contact config.rpc.callTimeout sent
    obtain ⟨bridge, built, pubsub⟩ := connectsOnceReached node reached valid
    exact ⟨bridge, built, deafOfPubsub (pubsub.trans sent)⟩

/-- This URL is for requests and ends like a path. -/
def disguised : String := "http://localhost:8545/geth.ipc"

/-- Not every URL for requests is refused. -/
theorem requestOnlyPasses : ¬ ∀ url, SentOverHttp url → isPubsubEndpoint url = false ∧
    ∀ config : Config, config.rpc.url = url → .unsupportedEndpoint url ∈ config.problems := by
  intro refused
  have scheme : (Url.parse? disguised).map Url.scheme = some .http := by decide +kernel
  obtain ⟨parsed, read, http⟩ := Option.map_eq_some_iff.mp scheme
  have rejected := (refused disguised ⟨parsed, read, .inl http⟩).1
  have accepted : isPubsubEndpoint disguised = true := by decide +kernel
  exact Bool.false_ne_true (rejected.symm.trans accepted)

end NodeBridge.Bridge.Endpoint
