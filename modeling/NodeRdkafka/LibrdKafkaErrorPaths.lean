import NodeRdkafka.LibrdKafkaError

namespace NodeRdkafka

namespace ErrorCode

def Internal (code : ErrorCode) : Prop := errBegin < code ∧ code < errEnd

def Broker (code : ErrorCode) : Prop := errUnknown ≤ code

instance (code : ErrorCode) : Decidable (Internal code) := inferInstanceAs (Decidable (_ ∧ _))

theorem not_internal_of_broker {code : ErrorCode} (broker : Broker code) : ¬ Internal code := by
  rintro ⟨_, below⟩
  exact absurd (lt_of_le_of_lt broker below) (by decide)

end ErrorCode

namespace LibrdKafkaError

/-- The text that librdkafka gives to a code: who reports it, and what. -/
def describe (code : ErrorCode) (text : String) : String :=
  (if code.Internal then "Local" else "Broker") ++ ": " ++ text

/-- The three ways to the error of a code. -/
def sources (err2str : ErrorCode → String) (code : ErrorCode) (message : String) : List ErrorSource :=
  [.number code, .object { message, code }, .error { message := err2str code, code := some code }]

section Agreement
variable (err2str : ErrorCode → String) (toLowerCase : String → String) (code : ErrorCode) (message : String)

def SameNumbers : Prop :=
  ∀ a ∈ sources err2str code message, ∀ b ∈ sources err2str code message,
    (create err2str toLowerCase a).code = (create err2str toLowerCase b).code ∧
      (create err2str toLowerCase a).errno = (create err2str toLowerCase b).errno

def SameOrigins : Prop :=
  ∀ a ∈ sources err2str code message, ∀ b ∈ sources err2str code message,
    (create err2str toLowerCase a).origin = "local" ↔ (create err2str toLowerCase b).origin = "local"

def LocalIfInternal : Prop :=
  ∀ a ∈ sources err2str code message, (create err2str toLowerCase a).origin = "local" ↔ code.Internal

/-- However the error of the code is made, it has the same numbers and is
local exactly for an internal code. -/
structure PathsAgree : Prop where
  numbers : SameNumbers err2str toLowerCase code message
  origins : SameOrigins err2str toLowerCase code message
  internal : LocalIfInternal err2str toLowerCase code message

end Agreement

theorem splitChars_separator {origin : List Char} (noColon : ':' ∉ origin) (rest part : List Char) :
    splitChars (origin ++ ':' :: ' ' :: rest) part = (part.reverse ++ origin) :: splitChars rest [] := by
  induction origin generalizing part with
  | nil => simp [splitChars]
  | cons c later ih =>
    have other : c ≠ ':' := fun same => noColon (by simp [same])
    have shifted := ih (fun member => noColon (by simp [member])) (c :: part)
    rw [List.cons_append, splitChars]
    · simpa using shifted
    · intro tail same
      exact absurd same other

theorem split_separator {origin : String} (noColon : ':' ∉ origin.toList) (text : String) :
    split (origin ++ ": " ++ text) = origin :: split text := by
  have whole : (origin ++ ": " ++ text).toList = origin.toList ++ ':' :: ' ' :: text.toList := by
    rw [String.toList_append, String.toList_append]
    simp
  rw [split, whole, splitChars_separator noColon]
  simp [split]

theorem splitChars_ne_nil (chars part : List Char) : splitChars chars part ≠ [] := by
  induction chars, part using splitChars.induct with
  | case1 | case3 => simp [splitChars]
  | case2 part c rest _ ih =>
    rw [splitChars]
    · exact ih
    · assumption

/-- The part before the first separator is the origin, and the next one all
that is kept of the text. -/
theorem parseMessage_separator (toLowerCase : String → String) {origin : String}
    (noColon : ':' ∉ origin.toList) (text : String) :
    (parseMessage toLowerCase (origin ++ ": " ++ text)).1 = toLowerCase origin := by
  obtain ⟨part, later, parts⟩ := List.exists_cons_of_ne_nil (splitChars_ne_nil text.toList [])
  rw [parseMessage, split_separator noColon]
  simp only [split, parts, List.map_cons]

section Origins
variable {err2str : ErrorCode → String} {toLowerCase : String → String} {code : ErrorCode} {message text : String}

/-- From the number or the object, an internal code is the one that is not local. -/
theorem originOfCode_local_iff (known : code.Internal ∨ code.Broker) :
    originOfCode code = "local" ↔ ¬ code.Internal := by
  unfold originOfCode
  rcases known with internal | broker
  · rw [if_neg (not_le.mpr internal.2)]
    simp [internal]
  · have above : ErrorCode.errEnd ≤ code := le_trans (by decide) broker
    simp [above, ErrorCode.not_internal_of_broker broker]

theorem parseMessage_describe (toLowerCase : String → String) (code : ErrorCode) (text : String) :
    (parseMessage toLowerCase (describe code text)).1 =
      if code.Internal then toLowerCase "Local" else toLowerCase "Broker" := by
  unfold describe
  split
  · exact parseMessage_separator toLowerCase (by decide) text
  · exact parseMessage_separator toLowerCase (by decide) text

/-- From the text, an internal code is local, and so is each code with one of
the two texts of a wrong state. -/
theorem create_error_local_iff (err2str : ErrorCode → String) (code : ErrorCode) (text : String)
    (isLocal : toLowerCase "Local" = "local") (isBroker : toLowerCase "Broker" = "broker") :
    (create err2str toLowerCase (.error { message := describe code text, code := some code })).origin = "local" ↔
      code.Internal ∨ isDisconnected toLowerCase (describe code text) := by
  have origin := parseMessage_describe toLowerCase code text
  by_cases disconnected : isDisconnected toLowerCase (describe code text)
  · simp [create, disconnected]
  · simp only [create, disconnected, Bool.false_eq_true, if_false, or_false, origin, isLocal, isBroker]
    by_cases internal : code.Internal
    · simp [internal]
    · simp only [internal, if_false]
      decide

theorem mem_sources {source : ErrorSource} :
    source ∈ sources err2str code message ↔
      source = .number code ∨ source = .object { message, code } ∨
        source = .error { message := err2str code, code := some code } := by
  simp [sources]

/-- The numbers agree but for the two texts of a wrong state. -/
theorem sameNumbers_iff :
    SameNumbers err2str toLowerCase code message ↔
      (isDisconnected toLowerCase (err2str code) → code = ErrorCode.errState) := by
  constructor
  · intro same disconnected
    have numbers := (same _ (mem_sources.mpr (Or.inl rfl)) _ (mem_sources.mpr (Or.inr (Or.inr rfl)))).1
    rw [create_error_code, if_pos disconnected] at numbers
    exact numbers
  · intro state
    have each : ∀ source ∈ sources err2str code message, (create err2str toLowerCase source).code = code := by
      intro source member
      rcases mem_sources.mp member with rfl | rfl | rfl
      · rfl
      · rfl
      · rw [create_error_code]
        split
        · rename_i disconnected
          exact (state disconnected).symm
        · rfl
    intro a first b second
    have same := (each a first).trans (each b second).symm
    exact ⟨same, by rw [create_errno, create_errno, same]⟩

/-- The origins agree only where the text of a broker code is one of these two. -/
theorem sameOrigins_iff (isLocal : toLowerCase "Local" = "local") (isBroker : toLowerCase "Broker" = "broker")
    (known : code.Internal ∨ code.Broker) (described : err2str code = describe code text) :
    SameOrigins err2str toLowerCase code message ↔
      ¬ code.Internal ∧ isDisconnected toLowerCase (err2str code) := by
  have ofNumber := originOfCode_local_iff known
  have ofText := create_error_local_iff err2str code text isLocal isBroker
  rw [← described] at ofText
  constructor
  · intro same
    have flipped := same _ (mem_sources.mpr (Or.inl rfl)) _ (mem_sources.mpr (Or.inr (Or.inr rfl)))
    have both := ofNumber.symm.trans (flipped.trans ofText)
    by_cases internal : code.Internal
    · exact absurd internal (both.mpr (Or.inl internal))
    · exact ⟨internal, (both.mp internal).resolve_left internal⟩
  · rintro ⟨external, disconnected⟩
    have each : ∀ source ∈ sources err2str code message,
        (create err2str toLowerCase source).origin = "local" := by
      intro source member
      rcases mem_sources.mp member with rfl | rfl | rfl
      · exact ofNumber.mpr external
      · exact ofNumber.mpr external
      · exact ofText.mpr (Or.inr disconnected)
    exact fun a first b second => iff_of_true (each a first) (each b second)

/-- The origin of the number is the wrong way round for every code. -/
theorem not_localIfInternal (known : code.Internal ∨ code.Broker) :
    ¬ LocalIfInternal err2str toLowerCase code message := by
  intro agree
  have ofNumber := agree _ (mem_sources.mpr (Or.inl rfl))
  have flipped := (originOfCode_local_iff known).symm.trans ofNumber
  exact iff_not_self flipped.symm

end Origins
end LibrdKafkaError

/-- For no code of librdkafka do the ways to its error agree: made from the
number or from the object it is local exactly where it should not be. Of the
other two parts the numbers agree but for the texts of a wrong state, and the
origins only for a broker code with one of these texts. -/
theorem construction_paths_disagree (err2str : ErrorCode → String) (toLowerCase : String → String)
    {code : ErrorCode} (message : String) (known : code.Internal ∨ code.Broker) :
    ¬ LibrdKafkaError.PathsAgree err2str toLowerCase code message ∧
      (LibrdKafkaError.SameNumbers err2str toLowerCase code message ↔
        (LibrdKafkaError.isDisconnected toLowerCase (err2str code) → code = ErrorCode.errState)) ∧
      ∀ text, toLowerCase "Local" = "local" → toLowerCase "Broker" = "broker" →
        err2str code = LibrdKafkaError.describe code text →
        (LibrdKafkaError.SameOrigins err2str toLowerCase code message ↔
          ¬ code.Internal ∧ LibrdKafkaError.isDisconnected toLowerCase (err2str code)) := by
  refine ⟨fun agree => LibrdKafkaError.not_localIfInternal known agree.internal,
    LibrdKafkaError.sameNumbers_iff, ?_⟩
  intro text isLocal isBroker described
  exact LibrdKafkaError.sameOrigins_iff isLocal isBroker known described

def allBrokersDown : String := "Local: All broker connections are down"

theorem construction_paths_all_brokers_down :
    ¬ LibrdKafkaError.PathsAgree (fun _ => allBrokersDown) asciiLowerCase (-187) allBrokersDown ∧
      LibrdKafkaError.SameNumbers (fun _ => allBrokersDown) asciiLowerCase (-187) allBrokersDown ∧
      ¬ LibrdKafkaError.SameOrigins (fun _ => allBrokersDown) asciiLowerCase (-187) allBrokersDown := by
  have internal : ErrorCode.Internal (-187) := ⟨by decide, by decide⟩
  obtain ⟨disagree, numbers, origins⟩ :=
    construction_paths_disagree (fun _ => allBrokersDown) asciiLowerCase allBrokersDown (Or.inl internal)
  refine ⟨disagree, numbers.mpr fun wrongState => absurd wrongState (by decide), fun same => ?_⟩
  exact ((origins "All broker connections are down" (by decide) (by decide) (by decide)).mp same).1 internal

/-- The code of ERR__ALL_BROKERS_DOWN is of Kafka, and its text is local. -/
theorem all_brokers_down_origins :
    (LibrdKafkaError.create (fun _ => allBrokersDown) asciiLowerCase (.number (-187))).origin = "kafka" ∧
      (LibrdKafkaError.create (fun _ => allBrokersDown) asciiLowerCase
        (.error { message := allBrokersDown, code := some (-187) })).origin = "local" ∧
      ¬ LibrdKafkaError.PathsAgree (fun _ => allBrokersDown) asciiLowerCase (-187) allBrokersDown := by
  refine ⟨by decide, by decide, fun agree => ?_⟩
  have ofNumber := agree.internal (.number (-187)) (LibrdKafkaError.mem_sources.mpr (Or.inl rfl))
  exact absurd (ofNumber.mpr ⟨by decide, by decide⟩) (by decide)

end NodeRdkafka
