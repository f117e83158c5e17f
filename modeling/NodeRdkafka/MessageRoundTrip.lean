import NodeRdkafka.NodeProduce

namespace NodeRdkafka

/-- The value of a header as a user gives it. -/
inductive HeaderValue
  | text (value : String)
  | bytes (value : List UInt8)

namespace HeaderValue

def toV8 : HeaderValue → JsValue
  | text value => .string value
  | bytes value => .buffer value

def content : HeaderValue → List UInt8
  | text value => Utf8.encode value
  | bytes value => value

/-- What the way through a string and a C string leaves as it is. -/
def Survives : HeaderValue → Prop
  | text value => '\x00' ∉ value.toList
  | bytes value => Utf8.Valid value ∧ 0 ∉ value

instance : DecidablePred Survives
  | text _ => inferInstanceAs (Decidable (_ ∉ _))
  | bytes _ => inferInstanceAs (Decidable (_ ∧ _))

end HeaderValue

/-- The bytes that a payload or a key given to produce stands for. -/
def JsValue.content : JsValue → Option (List UInt8)
  | buffer bytes => some bytes
  | string text => some (Utf8.encode text)
  | _ => none

/-- The values that produce takes as a key without a conversion. -/
def JsValue.IsKey : JsValue → Prop
  | null | undefined | buffer _ | string _ => True
  | _ => False

/-- The headers of a message read back, none when there is no such property. -/
def readHeaders (message : JsValue) : List JsValue :=
  match message.get? "headers" with
  | some (.array all) => all
  | _ => []

namespace ProduceContext
variable {c : ProduceContext} {info : List JsValue} {handle : Nat} {produced : NodeProduced}
  {request : ProduceRequest}

theorem bind_eq_ok {ε α β : Type} {first : Except ε α} {later : α → Except ε β} {result : β} :
    first >>= later = .ok result ↔ ∃ value, first = .ok value ∧ later value = .ok result := by
  cases first <;> simp [bind, Except.bind]

theorem argumentsOf_ok {arguments : NodeProduceArguments} (run : c.argumentsOf info handle = .ok arguments) :
    c.messageData (argument info 2) = .ok arguments.payload ∧
      arguments.key = c.keyData (argument info 3) ∧
      arguments.msgOpaque = (if (argument info 5).isUndefined then none else some handle) ∧
      arguments.headers = c.headersOf (argument info 6) := by
  unfold argumentsOf at run
  split at run
  · cases run
  · obtain ⟨payload, message, run⟩ := bind_eq_ok.mp run
    obtain ⟨timestamp, _, run⟩ := bind_eq_ok.mp run
    cases Except.ok.inj run
    exact ⟨message, rfl, rfl, rfl⟩

theorem produce_handed {sent : ProduceRequest} (handed : (c.produce sent).2 = some request) :
    request = sent := by
  unfold produce at handed
  split at handed
  · exact (Option.some.inj handed).symm
  · cases handed

theorem nodeProduce_sent (ran : c.nodeProduce info handle = .ok produced) :
    ∃ arguments, c.argumentsOf info handle = .ok arguments ∧ c.send arguments (argument info 0) = produced := by
  unfold nodeProduce at ran
  cases parsed : c.argumentsOf info handle with
  | error e => simp [parsed, Except.map] at ran
  | ok arguments => exact ⟨arguments, rfl, by simpa [parsed, Except.map] using ran⟩

/-- What reaches librdkafka. -/
theorem nodeProduce_handed (ran : c.nodeProduce info handle = .ok produced)
    (handed : produced.handed = some request) :
    c.messageData (argument info 2) = .ok request.payload ∧
      request.key = c.keyData (argument info 3) ∧
      request.headers = if (argument info 0).isString then c.headersOf (argument info 6) else [] := by
  obtain ⟨arguments, parsed, returned⟩ := nodeProduce_sent ran
  obtain ⟨message, key, _, headers⟩ := argumentsOf_ok parsed
  subst returned
  unfold send at handed
  split at handed
  · rename_i topic named
    cases produce_handed handed
    exact ⟨message, key, by simp [named, JsValue.isString, headers]⟩
  · rename_i unnamed
    have wrapped : (argument info 0).isString = false := by
      cases topic : argument info 0 <;> first | rfl | exact absurd topic (unnamed _)
    split at handed
    · cases handed
    · cases produce_handed handed
      exact ⟨message, key, by simp [wrapped]⟩

/-- A header value survives exactly when its bytes are text without NUL. -/
theorem stdString_eq_iff (value : HeaderValue) :
    stdString (c.toV8String value.toV8) = value.content ↔ value.Survives := by
  cases value with
  | text value =>
    simp only [HeaderValue.toV8, toV8String, stdString, HeaderValue.content, HeaderValue.Survives]
    rw [Utf8.takeWhile_eq_iff, Utf8.zero_mem_encode]
  | bytes value =>
    simp only [HeaderValue.toV8, toV8String, stdString, HeaderValue.content, HeaderValue.Survives]
    constructor
    · intro same
      have valid : Utf8.Valid value := by
        rw [Utf8.takeWhile_encode] at same
        exact ⟨_, same⟩
      have whole := Utf8.valid_iff.mp valid
      rw [whole] at same
      exact ⟨valid, Utf8.takeWhile_eq_iff.mp same⟩
    · rintro ⟨valid, nonzero⟩
      rw [Utf8.valid_iff.mp valid]
      exact Utf8.takeWhile_eq_iff.mpr nonzero

theorem headerOf_object (key : String) (value : JsValue) :
    c.headerOf (.object [(key, value)]) = { key := cString key, value := stdString (c.toV8String value) } := by
  simp [headerOf, JsValue.ownNames, JsValue.get, JsValue.get?]

/-- One header comes back as it was given under these conditions only. -/
theorem header_roundTrip_iff (key : String) (value : HeaderValue) :
    Conversion.Message.headerToV8Object (c.headerOf (.object [(key, value.toV8)])) =
        .object [(key, .buffer value.content)] ↔
      '\x00' ∉ key.toList ∧ key ≠ "__proto__" ∧ value.Survives := by
  rw [headerOf_object]
  simp only [Conversion.Message.headerToV8Object, Conversion.Message.setOnly]
  rw [← stdString_eq_iff (c := c), ← cString_eq_iff]
  by_cases proto : cString key = "__proto__"
  · simp only [proto, if_true, JsValue.object.injEq, reduceCtorEq, false_iff, not_and]
    rintro rfl different
    exact absurd rfl different
  · simp only [proto, if_false, JsValue.object.injEq, List.cons.injEq, Prod.mk.injEq, JsValue.buffer.injEq,
      and_true]
    constructor
    · rintro ⟨same, bytes⟩
      exact ⟨same, same ▸ proto, bytes⟩
    · rintro ⟨same, _, bytes⟩
      exact ⟨same, bytes⟩

end ProduceContext

section ReadBack
variable {err2str : ErrorCode → String} {message : Message}

theorem readHeaders_eq (noError : message.err = ErrorCode.errNoError) :
    readHeaders (Conversion.Message.toV8Object err2str message) =
      (message.headers.getD []).map Conversion.Message.headerToV8Object := by
  unfold readHeaders Conversion.Message.toV8Object Conversion.Message.toV8ObjectWith
  cases message.headers <;> simp [noError, JsValue.get?, List.lookup_cons]

theorem readValue_eq (noError : message.err = ErrorCode.errNoError) :
    (Conversion.Message.toV8Object err2str message).get "value" = bufferOrNull message.payload := by
  simp [Conversion.Message.toV8Object, Conversion.Message.toV8ObjectWith, noError, JsValue.get, JsValue.get?]

theorem readKey_eq (noError : message.err = ErrorCode.errNoError) :
    (Conversion.Message.toV8Object err2str message).get "key" = bufferOrNull message.keyPointer := by
  unfold Conversion.Message.toV8Object Conversion.Message.toV8ObjectWith
  cases message.headers <;> simp [noError, JsValue.get, JsValue.get?, List.lookup_cons]

end ReadBack

/-- A connected producer whose librdkafka accepts every message. -/
def acceptingContext : ProduceContext where
  toText _ := ""
  toNumber _ := .nan
  buffers := { data := fun bytes => if bytes.isEmpty then none else some bytes, newData := some [] }
  unwrapTopic _ := ""
  isConnected := true
  createTopic _ := ""
  librdkafka _ := ErrorCode.errNoError

/-- The message as a consumer gets it. -/
def deliveredMessage (request : ProduceRequest) : Message where
  err := ErrorCode.errNoError
  topicName := request.topicName
  partition := request.partition
  offset := 0
  payload := request.payload
  keyPointer := request.key
  headers := some request.headers

/-- Headers come back as they were given, with strings as their bytes, if and
only if the topic is given by name, no key has a NUL or is the name of the
prototype accessor, and every value is text without NUL. -/
theorem headers_roundTrip_iff {err2str : ErrorCode → String} {c : ProduceContext} {info : List JsValue}
    {handle : Nat} {produced : NodeProduced} {request : ProduceRequest} {message : Message}
    {headers : List (String × HeaderValue)}
    (ran : c.nodeProduce info handle = .ok produced) (handed : produced.handed = some request)
    (given : ProduceContext.argument info 6 =
      .array (headers.map fun header => .object [(header.1, header.2.toV8)]))
    (carried : message.headers.getD [] = request.headers) (noError : message.err = ErrorCode.errNoError) :
    readHeaders (Conversion.Message.toV8Object err2str message) =
        headers.map (fun header => .object [(header.1, .buffer header.2.content)]) ↔
      (headers ≠ [] → (ProduceContext.argument info 0).isString = true) ∧
        ∀ header ∈ headers, '\x00' ∉ header.1.toList ∧ header.1 ≠ "__proto__" ∧ header.2.Survives := by
  obtain ⟨_, _, reached⟩ := ProduceContext.nodeProduce_handed ran handed
  rw [readHeaders_eq noError, carried, reached, given]
  by_cases named : (ProduceContext.argument info 0).isString
  · simp only [named, if_true, implies_true, true_and, ProduceContext.headersOf, List.map_map]
    rw [List.map_inj_left]
    constructor
    · intro all header member
      exact (ProduceContext.header_roundTrip_iff header.1 header.2).mp (all header member)
    · intro all header member
      exact (ProduceContext.header_roundTrip_iff header.1 header.2).mpr (all header member)
  · simp only [named, if_false, List.map_nil, imp_false, not_not, Bool.false_eq_true]
    constructor
    · intro empty
      have none_given : headers = [] := List.map_eq_nil_iff.mp empty.symm
      simp [none_given]
    · rintro ⟨rfl, _⟩
      rfl

def twoHeaders : List (String × HeaderValue) := [("a", .text "b"), ("c", .bytes [0xC3, 0xA9])]

def headerArguments (headers : List (String × HeaderValue)) : List JsValue :=
  [.string "t", .null, .null, .null, .null, .undefined,
   .array (headers.map fun header => .object [(header.1, header.2.toV8)])]

theorem headers_roundTrip_two :
    ∃ produced request, acceptingContext.nodeProduce (headerArguments twoHeaders) 0 = .ok produced ∧
      produced.handed = some request ∧
      readHeaders (Conversion.Message.toV8Object (fun _ => "") (deliveredMessage request)) =
        [.object [("a", .buffer [0x62])], .object [("c", .buffer [0xC3, 0xA9])]] := by
  obtain ⟨produced, request, ran, handed⟩ : ∃ produced request,
      acceptingContext.nodeProduce (headerArguments twoHeaders) 0 = .ok produced ∧
        produced.handed = some request := ⟨_, _, rfl, rfl⟩
  have back := (@headers_roundTrip_iff (fun _ => "") _ _ _ _ _ (deliveredMessage request) twoHeaders
    ran handed rfl rfl rfl).mpr ⟨fun _ => rfl, by decide⟩
  exact ⟨produced, request, ran, handed, back⟩

/-- A Buffer that is no UTF-8 comes back as the bytes of a replacement
character, and a string only up to its NUL. -/
theorem headers_altered :
    ∃ produced request, acceptingContext.nodeProduce
        (headerArguments [("a", .bytes [0xFF]), ("b", .text "x\x00y")]) 0 = .ok produced ∧
      produced.handed = some request ∧
      readHeaders (Conversion.Message.toV8Object (fun _ => "") (deliveredMessage request)) =
        [.object [("a", .buffer [0xEF, 0xBF, 0xBD])], .object [("b", .buffer [0x78])]] ∧
      readHeaders (Conversion.Message.toV8Object (fun _ => "") (deliveredMessage request)) ≠
        [.object [("a", .buffer [0xFF])], .object [("b", .buffer (Utf8.encode "x\x00y"))]] := by
  refine ⟨_, _, rfl, rfl, rfl, ?_⟩
  change [JsValue.object [("a", .buffer [0xEF, 0xBF, 0xBD])], .object [("b", .buffer [0x78])]] ≠ _
  simp

namespace ProduceContext
variable {c : ProduceContext}

theorem bufferData_eq (documented : c.buffers.Documented) (bytes : List UInt8) :
    c.bufferData bytes = some bytes := by
  unfold bufferData
  rcases documented.data bytes with whole | ⟨rfl, null⟩
  · rw [whole]
  · rw [null]
    exact documented.newData

theorem messageData_content (documented : c.buffers.Documented) {value : JsValue}
    {payload : Option (List UInt8)} (read : c.messageData value = .ok payload) : payload = value.content := by
  cases value with
  | null => exact (Except.ok.inj read).symm
  | buffer bytes => exact (Except.ok.inj read).symm.trans (bufferData_eq documented bytes)
  | _ => cases read

/-- A key keeps its bytes unless it is a string with a NUL. -/
theorem keyData_eq_iff (documented : c.buffers.Documented) {key : JsValue} (kind : key.IsKey) :
    c.keyData key = key.content ↔ ∀ text, key = .string text → '\x00' ∉ text.toList := by
  cases key with
  | null => simp [keyData, JsValue.content]
  | undefined => simp [keyData, JsValue.content]
  | buffer bytes => simp [keyData, JsValue.content, bufferData_eq documented]
  | string text =>
    simp only [keyData, JsValue.content, toV8String, stdString, Option.some.injEq, JsValue.string.injEq,
      forall_eq']
    rw [Utf8.takeWhile_eq_iff, Utf8.zero_mem_encode]
  | _ => exact kind.elim

/-- Two string keys have the same bytes when they agree up to a NUL. -/
theorem keyData_string_eq_iff (left right : String) :
    c.keyData (.string left) = c.keyData (.string right) ↔ cString left = cString right := by
  simp only [keyData, toV8String, stdString, Option.some.injEq, Utf8.takeWhile_encode]
  exact ⟨Utf8.encode_injective, congrArg Utf8.encode⟩

end ProduceContext

theorem bufferOrNull_injective {left right : Option (List UInt8)}
    (same : bufferOrNull left = bufferOrNull right) : left = right := by
  cases left <;> cases right <;> simp_all [bufferOrNull]

/-- The payload and the key of a message come back with the bytes that were
given, null for null, if and only if the key is no string with a NUL. String
keys are told apart up to the first NUL. -/
theorem payload_key_roundTrip_iff {err2str : ErrorCode → String} {c : ProduceContext} {info : List JsValue}
    {handle : Nat} {produced : NodeProduced} {request : ProduceRequest} {message : Message}
    (documented : c.buffers.Documented) (ran : c.nodeProduce info handle = .ok produced)
    (handed : produced.handed = some request) (kind : (ProduceContext.argument info 3).IsKey)
    (payload : message.payload = request.payload) (key : message.keyPointer = request.key)
    (noError : message.err = ErrorCode.errNoError) :
    ((Conversion.Message.toV8Object err2str message).get "value" =
          bufferOrNull (ProduceContext.argument info 2).content ∧
        (Conversion.Message.toV8Object err2str message).get "key" =
          bufferOrNull (ProduceContext.argument info 3).content ↔
      ∀ text, ProduceContext.argument info 3 = .string text → '\x00' ∉ text.toList) ∧
    ∀ left right, c.keyData (.string left) = c.keyData (.string right) ↔ cString left = cString right := by
  refine ⟨?_, ProduceContext.keyData_string_eq_iff⟩
  obtain ⟨read, keyed, _⟩ := ProduceContext.nodeProduce_handed ran handed
  rw [readValue_eq noError, readKey_eq noError, payload, key, keyed,
    ProduceContext.messageData_content documented read,
    ← ProduceContext.keyData_eq_iff documented kind]
  constructor
  · rintro ⟨_, same⟩
    exact bufferOrNull_injective same
  · intro same
    exact ⟨rfl, congrArg bufferOrNull same⟩

theorem acceptingContext_documented : acceptingContext.buffers.Documented := by
  refine ⟨?_, rfl⟩
  intro bytes
  cases bytes with
  | nil => exact Or.inr ⟨rfl, rfl⟩
  | cons first rest => exact Or.inl rfl

theorem payload_key_roundTrip_empty :
    ∃ produced request,
      acceptingContext.nodeProduce [.string "t", .null, .buffer [], .string "key"] 0 = .ok produced ∧
      produced.handed = some request ∧
      (Conversion.Message.toV8Object (fun _ => "") (deliveredMessage request)).get "value" = .buffer [] ∧
      (Conversion.Message.toV8Object (fun _ => "") (deliveredMessage request)).get "key" =
        .buffer [0x6B, 0x65, 0x79] := by
  obtain ⟨produced, request, ran, handed⟩ : ∃ produced request,
      acceptingContext.nodeProduce [.string "t", .null, .buffer [], .string "key"] 0 = .ok produced ∧
        produced.handed = some request := ⟨_, _, rfl, rfl⟩
  have back := (@payload_key_roundTrip_iff (fun _ => "") _ _ _ _ _ (deliveredMessage request)
    acceptingContext_documented ran handed trivial rfl rfl rfl).1.mpr (by
      intro text same
      cases same
      decide)
  exact ⟨produced, request, ran, handed, back⟩

/-- Two string keys that differ after a NUL have the same bytes. -/
theorem key_cut_at_nul :
    ∃ produced request,
      acceptingContext.nodeProduce [.string "t", .null, .null, .string "a\x00b"] 0 = .ok produced ∧
      produced.handed = some request ∧
      (Conversion.Message.toV8Object (fun _ => "") (deliveredMessage request)).get "key" = .buffer [0x61] ∧
      bufferOrNull (JsValue.content (.string "a\x00b")) = .buffer [0x61, 0, 0x62] ∧
      acceptingContext.keyData (.string "a\x00b") = acceptingContext.keyData (.string "a\x00c") := by
  refine ⟨_, _, rfl, rfl, rfl, rfl, ?_⟩
  rw [ProduceContext.keyData_string_eq_iff]
  decide

end NodeRdkafka
