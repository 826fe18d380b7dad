import CircuitBreaker.Console.Grammar
import CircuitBreaker.Proofs.Numerals
import CircuitBreaker.Proofs.Words

/-!
# What the console understands

A line is read as a command exactly if it is that command as an operator may type it: its keyword
and its arguments, with one or more gaps in front of each argument. The one other outcome that is
told apart is a curve with more points than can be stored.
-/

set_option autoImplicit false

namespace CircuitBreaker

open Text (Follows Parted Solid Trimmed Unblank Undigited numeral? readNumeral)

def CurvePoint.typed (point : CurvePoint) : List Char :=
  Nat.toDigits 10 point.current.toNat ++ ':' :: Nat.toDigits 10 point.duration.toNat

namespace Arguments

section Readers

variable {word : List Char} {words : List (List Char)} {number : Nat}

theorem numeral?_toString {max : Nat} (small : number ≤ max) :
    numeral? max (toString number).toList = some number :=
  Text.numeral?_eq_some.mpr ⟨small, Nat.toList_repr⟩

theorem typed_of_numeral? {max : Nat} (found : numeral? max word = some number) :
    number ≤ max ∧ word = (toString number).toList := by
  obtain ⟨small, written⟩ := Text.numeral?_eq_some.mp found
  exact ⟨small, written.trans Nat.toList_repr.symm⟩

theorem typed8 (found : numeral? 0xff word = some number) :
    word = (toString (UInt8.ofNat number).toNat).toList := by
  obtain ⟨small, written⟩ := typed_of_numeral? found
  rwa [UInt8.toNat_ofNat_of_lt' (Nat.lt_succ_of_le small)]

theorem typed16 (found : numeral? 0xffff word = some number) :
    word = (toString (UInt16.ofNat number).toNat).toList := by
  obtain ⟨small, written⟩ := typed_of_numeral? found
  rwa [UInt16.toNat_ofNat_of_lt' (Nat.lt_succ_of_le small)]

theorem typed32 (found : numeral? 0xffffffff word = some number) :
    word = (toString (UInt32.ofNat number).toNat).toList := by
  obtain ⟨small, written⟩ := typed_of_numeral? found
  rwa [UInt32.toNat_ofNat_of_lt' (Nat.lt_succ_of_le small)]

theorem limitOfWords_eq_some {limit : UInt8} :
    limitOfWords words = some limit ↔
      words = (Command.limit (some limit)).arguments.map String.toList := by
  constructor
  · intro read
    unfold limitOfWords at read
    split at read
    · obtain ⟨number, found, rfl⟩ := Option.map_eq_some_iff.mp read
      rw [typed8 found]
      rfl
    · cases read
  · rintro rfl
    have bounded := limit.toNat_lt
    simp only [Command.arguments, List.map_cons, List.map_nil, limitOfWords]
    rw [numeral?_toString (by omega), Option.map_some, UInt8.ofNat_toNat]

theorem modeOfWords_eq_some {mode : ClosedMode} :
    modeOfWords words = some mode ↔
      words = (Command.mode (some mode)).arguments.map String.toList := by
  constructor
  · intro read
    unfold modeOfWords at read
    split at read
    · split at read
      · next typed =>
        cases read
        rw [typed]
        rfl
      · split at read
        · next typed =>
          cases read
          rw [typed]
          rfl
        · cases read
    · cases read
  · rintro rfl
    cases mode <;> decide

theorem modulationOfWords_eq_some {settings : ModulationSettings} :
    modulationOfWords words = some settings ↔
      words = (Command.modulation (some settings)).arguments.map String.toList := by
  constructor
  · intro read
    unfold modulationOfWords at read
    split at read
    · obtain ⟨whileClosed, first, read⟩ := Option.bind_eq_some_iff.mp read
      obtain ⟨period, second, read⟩ := Option.bind_eq_some_iff.mp read
      cases read
      rw [typed8 first, typed8 second]
      rfl
    · cases read
  · rintro rfl
    have shorter := settings.whileClosed.toNat_lt
    have longer := settings.period.toNat_lt
    simp only [Command.arguments, List.map_cons, List.map_nil, modulationOfWords]
    rw [numeral?_toString (by omega), numeral?_toString (by omega)]
    simp

theorem typed_recovery {enabled : Bool} {first second third : List Char}
    {values : RecoveryArguments}
    (read : (do
      let attempts ← numeral? 0xffff first
      let delay ← numeral? 0xffffffff second
      let reset ← numeral? 0xffffffff third
      some ({
        enabled
        attempts := UInt16.ofNat attempts
        delay := UInt32.ofNat delay
        reset := UInt32.ofNat reset } : RecoveryArguments)) = some values) :
    (if enabled then "on" else "off").toList :: [first, second, third] =
      (Command.recovery (some values)).arguments.map String.toList := by
  obtain ⟨attempts, few, read⟩ := Option.bind_eq_some_iff.mp read
  obtain ⟨delay, short, read⟩ := Option.bind_eq_some_iff.mp read
  obtain ⟨reset, long, read⟩ := Option.bind_eq_some_iff.mp read
  cases read
  rw [typed16 few, typed32 short, typed32 long]
  rfl

theorem recoveryOfWords_eq_some {values : RecoveryArguments} :
    recoveryOfWords words = some values ↔
      words = (Command.recovery (some values)).arguments.map String.toList := by
  constructor
  · intro read
    unfold recoveryOfWords at read
    split at read
    · dsimp only at read
      split at read
      · next on => rw [on, ← typed_recovery read]; rfl
      · split at read
        · next off => rw [off, ← typed_recovery read]; rfl
        · cases read
    · cases read
  · rintro rfl
    obtain ⟨enabled, attempts, delay, reset⟩ := values
    have few := attempts.toNat_lt
    have short := delay.toNat_lt
    have long := reset.toNat_lt
    simp only [Command.arguments, List.map_cons, List.map_nil, recoveryOfWords]
    rw [numeral?_toString (by omega), numeral?_toString (by omega), numeral?_toString (by omega)]
    cases enabled <;> simp

/-- No arguments are read as no value, and the others as their value. -/
theorem optional_eq_ok {α : Type} {read : List (List Char) → Option α}
    {typed : α → List (List Char)} (reads : ∀ value, read words = some value ↔ words = typed value)
    (nonempty : ∀ value, typed value ≠ []) {choice : Option α} :
    optional read words = .ok choice ↔ words = (choice.map typed).getD [] := by
  unfold optional
  cases choice with
  | none =>
      by_cases none : words = []
      · simp [none]
      · cases read words <;> simp [none]
  | some value =>
      rw [Option.map_some, Option.getD_some, ← reads]
      by_cases none : words = []
      · refine iff_of_false (by simp [none]) fun found => ?_
        exact nonempty value (((reads value).mp found).symm.trans none)
      · cases found : read words <;> simp [none]

theorem optional_ne_tooManyPoints {α : Type} (read : List (List Char) → Option α) :
    optional read words ≠ .error .tooManyPoints := by
  unfold optional
  split
  · simp
  · split <;> simp

/-- A point is read from the front of a word as far as digits go, except after a zero. -/
theorem readPoint_eq_some {point : CurvePoint} {rest : List Char} :
    readPoint word = some (point, rest) ↔
      word = point.typed ++ rest ∧ (point.duration = 0 ∨ Undigited rest) := by
  constructor
  · intro read
    unfold readPoint at read
    split at read
    · next current later first =>
      split at read
      · next duration left second =>
        cases read
        obtain ⟨low, front, _⟩ := Text.readNumeral_eq_some.mp first
        obtain ⟨short, back, ends⟩ := Text.readNumeral_eq_some.mp second
        rw [CurvePoint.typed, UInt32.toNat_ofNat_of_lt' (Nat.lt_succ_of_le low),
          UInt32.toNat_ofNat_of_lt' (Nat.lt_succ_of_le short), front, back]
        refine ⟨by simp, ends.imp_left fun zero => ?_⟩
        rw [zero]
        rfl
      · cases read
    · cases read
  · rintro ⟨rfl, ends⟩
    obtain ⟨current, duration⟩ := point
    have low := current.toNat_lt
    have short := duration.toNat_lt
    have parted : Undigited (':' :: (Nat.toDigits 10 duration.toNat ++ rest)) := by
      intro char head
      cases head
      rfl
    have first := Text.readNumeral_eq_some.mpr
      ⟨Nat.le_of_lt_succ low, rfl, .inr parted⟩
    have second := Text.readNumeral_eq_some.mpr
      ⟨Nat.le_of_lt_succ short, rfl, ends.imp_left fun zero => congrArg UInt32.toNat zero⟩
    rw [readPoint, CurvePoint.typed, List.append_assoc, List.cons_append]
    simp only [first, second, UInt32.ofNat_toNat]

theorem point?_eq_some {point : CurvePoint} : point? word = some point ↔ word = point.typed := by
  have whole : readPoint word = some (point, []) ↔ word = point.typed := by
    rw [readPoint_eq_some, List.append_nil]
    simp [Undigited]
  rw [← whole, point?]
  split
  · next read => simp [read]
  · next unread => exact iff_of_false (by simp) fun read => unread point read

theorem mapM_point? {points : List CurvePoint} :
    words.mapM point? = some points ↔ words = points.map CurvePoint.typed := by
  induction words generalizing points with
  | nil => cases points <;> simp
  | cons word words ih =>
      simp only [List.mapM_cons, Option.bind_eq_bind, Option.bind_eq_some_iff, ih, point?_eq_some]
      cases points with
      | nil => simp
      | cons point points => simp

theorem pointsOfWords_eq_ok {points : List CurvePoint} :
    pointsOfWords words = .ok points ↔
      words = points.map CurvePoint.typed ∧ points.length ≤ Curve.maxPoints := by
  constructor
  · intro read
    unfold pointsOfWords at read
    split at read
    · cases read
    · next found =>
      split at read
      · next none =>
        cases read
        have few := List.drop_eq_nil_iff.mp none
        rw [mapM_point?, List.take_of_length_le few] at found
        exact ⟨found, by rwa [found, List.length_map] at few⟩
      · split at read <;> cases read
  · rintro ⟨rfl, few⟩
    have within : (points.map CurvePoint.typed).length ≤ Curve.maxPoints := by
      rwa [List.length_map]
    rw [pointsOfWords, List.take_of_length_le within, mapM_point?.mpr rfl,
      List.drop_eq_nil_of_le within]

/-- A curve is too long if a seventeenth point is typed, whatever follows it. -/
theorem pointsOfWords_eq_tooManyPoints :
    pointsOfWords words = .error .tooManyPoints ↔
      ∃ (points : List CurvePoint) (last : CurvePoint) (after : List Char)
        (others : List (List Char)), points.length = Curve.maxPoints ∧
          words = points.map CurvePoint.typed ++ (last.typed ++ after) :: others ∧
          (last.duration = 0 ∨ Undigited after) := by
  constructor
  · intro read
    unfold pointsOfWords at read
    split at read
    · cases read
    · next points found =>
      split at read
      · cases read
      · next word others left =>
        split at read
        · next starts =>
          obtain ⟨⟨last, after⟩, seen⟩ := Option.isSome_iff_exists.mp starts
          obtain ⟨rfl, ends⟩ := readPoint_eq_some.mp seen
          have front := mapM_point?.mp found
          refine ⟨points, last, after, others, ?_, ?_, ends⟩
          · have many : Curve.maxPoints < words.length := by
              by_contra few
              rw [List.drop_eq_nil_of_le (Nat.le_of_not_lt few)] at left
              cases left
            rw [← List.length_map CurvePoint.typed, ← front, List.length_take]
            omega
          · rw [← front, ← left, List.take_append_drop]
        · cases read
  · rintro ⟨points, last, after, others, full, rfl, ends⟩
    have length : (points.map CurvePoint.typed).length = Curve.maxPoints := by
      rwa [List.length_map]
    have starts := readPoint_eq_some.mpr ⟨rfl, ends⟩
    rw [pointsOfWords, List.take_left' length, List.drop_left' length, mapM_point?.mpr rfl]
    simp [starts]

end Readers

end Arguments

namespace Keyword

theorem ofWord?_eq_some {word : List Char} {keyword : Keyword} :
    ofWord? word = some keyword ↔ word = keyword.text.toList := by
  constructor
  · intro found
    have same := List.find?_some found
    exact (of_decide_eq_true same).symm
  · rintro rfl
    cases keyword <;> decide

end Keyword

namespace Command

open Arguments

/-- A curve that is to be set has points, and no more than can be stored. -/
def Storable : Command → Prop
  | points (some curve) => curve ≠ [] ∧ curve.length ≤ Curve.maxPoints
  | _ => True

theorem arguments_points (curve : List CurvePoint) :
    (points (some curve)).arguments.map String.toList = curve.map CurvePoint.typed := by
  rw [arguments, List.map_map]
  refine List.map_congr_left fun point _ => ?_
  simp [CurvePoint.typed, toString]

section Arguments

variable {words : List (List Char)} {command : Command}

theorem bare_eq_ok {base : Command}
    (alone : ∀ other : Command, other.keyword = base.keyword → other = base)
    (storable : base.Storable) (none : base.arguments = []) :
    bare base words = .ok command ↔
      command.keyword = base.keyword ∧ command.Storable ∧
        words = command.arguments.map String.toList := by
  unfold bare
  constructor
  · intro read
    split at read
    · next empty =>
      cases read
      exact ⟨rfl, storable, by rw [empty, none]; rfl⟩
    · cases read
  · rintro ⟨same, _, typed⟩
    obtain rfl := alone command same
    rw [none] at typed
    exact if_pos typed

theorem optional_command_eq_ok {α : Type} {read : List (List Char) → Option α}
    {wrap : Option α → Command} {keyword : Keyword}
    (only : ∀ other : Command, other.keyword = keyword ↔ ∃ choice, wrap choice = other)
    (storable : ∀ choice, (wrap choice).Storable) (none : (wrap none).arguments = [])
    (reads : ∀ value, read words = some value ↔
      words = (wrap (some value)).arguments.map String.toList)
    (nonempty : ∀ value, (wrap (some value)).arguments.map String.toList ≠ []) :
    (optional read words).map wrap = .ok command ↔
      command.keyword = keyword ∧ command.Storable ∧
        words = command.arguments.map String.toList := by
  have typed (choice : Option α) :
      optional read words = .ok choice ↔ words = (wrap choice).arguments.map String.toList := by
    rw [optional_eq_ok reads nonempty]
    cases choice with
    | none => rw [none]; rfl
    | some value => rfl
  constructor
  · intro parsed
    cases found : optional read words with
    | error _ =>
        rw [found] at parsed
        cases parsed
    | ok choice =>
        rw [found] at parsed
        cases parsed
        exact ⟨(only _).mpr ⟨choice, rfl⟩, storable choice, (typed choice).mp found⟩
  · rintro ⟨same, _, written⟩
    obtain ⟨choice, rfl⟩ := (only command).mp same
    rw [(typed choice).mpr written]
    rfl

theorem points_eq_ok :
    (if words = [] then .ok (points none)
      else (pointsOfWords words).map fun curve => points (some curve)) = .ok command ↔
      command.keyword = .points ∧ command.Storable ∧
        words = command.arguments.map String.toList := by
  constructor
  · intro read
    split at read
    · next empty =>
      cases read
      exact ⟨rfl, trivial, empty⟩
    · next given =>
      cases found : pointsOfWords words with
      | error _ =>
          rw [found] at read
          cases read
      | ok curve =>
          rw [found] at read
          cases read
          obtain ⟨rfl, few⟩ := pointsOfWords_eq_ok.mp found
          exact ⟨rfl, ⟨fun none => given (by rw [none]; rfl), few⟩, (arguments_points curve).symm⟩
  · rintro ⟨same, storable, written⟩
    cases command <;> cases same
    next choice =>
    cases choice with
    | none => exact if_pos written
    | some curve =>
        obtain ⟨given, few⟩ := storable
        rw [arguments_points] at written
        rw [if_neg (by simpa [written] using given), pointsOfWords_eq_ok.mpr ⟨written, few⟩]
        rfl

/-- A keyword with arguments is one of its commands if they are the arguments of that command. -/
theorem ofArguments_eq_ok {keyword : Keyword} :
    ofArguments words keyword = .ok command ↔
      command.keyword = keyword ∧ command.Storable ∧
        words = command.arguments.map String.toList := by
  cases keyword with
  | openBreaker | closeBreaker | status | log | help =>
      exact bare_eq_ok (fun other same => by cases other <;> cases same; rfl) trivial rfl
  | points => exact points_eq_ok
  | limit =>
      exact optional_command_eq_ok (fun other => by cases other <;> simp [Command.keyword])
        (fun _ => trivial) rfl (fun _ => limitOfWords_eq_some) (fun _ => List.cons_ne_nil _ _)
  | recovery =>
      exact optional_command_eq_ok (fun other => by cases other <;> simp [Command.keyword])
        (fun _ => trivial) rfl (fun _ => recoveryOfWords_eq_some) (fun _ => List.cons_ne_nil _ _)
  | mode =>
      exact optional_command_eq_ok (fun other => by cases other <;> simp [Command.keyword])
        (fun _ => trivial) rfl (fun _ => modeOfWords_eq_some) (fun _ => List.cons_ne_nil _ _)
  | modulation =>
      exact optional_command_eq_ok (fun other => by cases other <;> simp [Command.keyword])
        (fun _ => trivial) rfl (fun _ => modulationOfWords_eq_some) (fun _ => List.cons_ne_nil _ _)

theorem ofWords_eq_ok :
    ofWords words = .ok command ↔
      command.Storable ∧ words = command.words.map String.toList := by
  cases words with
  | nil => simp [ofWords, Command.words]
  | cons word arguments =>
      rw [Command.words, List.map_cons, List.cons.injEq]
      cases found : Keyword.ofWord? word with
      | none =>
          refine iff_of_false (by simp [ofWords, found]) ?_
          rintro ⟨_, typed, _⟩
          rw [Keyword.ofWord?_eq_some.mpr typed] at found
          cases found
      | some keyword =>
          have same : word = command.keyword.text.toList ↔ command.keyword = keyword := by
            rw [← Keyword.ofWord?_eq_some, found, Option.some.injEq, eq_comm]
          rw [ofWords, found, same]
          dsimp only
          rw [ofArguments_eq_ok]
          exact and_left_comm

/-- Only a curve can have too many points. -/
theorem ofArguments_eq_tooManyPoints {keyword : Keyword} :
    ofArguments words keyword = .error .tooManyPoints ↔
      keyword = .points ∧ pointsOfWords words = .error .tooManyPoints := by
  have bared (base : Command) : bare base words ≠ .error .tooManyPoints := by
    unfold bare
    split <;> simp
  have optioned {α : Type} (read : List (List Char) → Option α) (wrap : Option α → Command) :
      (optional read words).map wrap ≠ .error .tooManyPoints := by
    intro refused
    cases found : optional read words with
    | ok _ =>
        rw [found] at refused
        cases refused
    | error reason =>
        rw [found] at refused
        cases refused
        exact optional_ne_tooManyPoints read found
  cases keyword with
  | openBreaker | closeBreaker | status | log | help =>
      exact iff_of_false (bared _) (by simp)
  | limit | recovery | mode | modulation => exact iff_of_false (optioned _ _) (by simp)
  | points =>
      rw [ofArguments]
      by_cases empty : words = []
      · rw [if_pos empty, empty]
        exact iff_of_false (by simp) (by decide)
      · rw [if_neg empty]
        cases pointsOfWords words <;> simp [Except.map]

theorem ofWords_eq_tooManyPoints :
    ofWords words = .error .tooManyPoints ↔
      ∃ (points : List CurvePoint) (last : CurvePoint) (after : List Char)
        (others : List (List Char)), points.length = Curve.maxPoints ∧
          words = Keyword.points.text.toList ::
            (points.map CurvePoint.typed ++ (last.typed ++ after) :: others) ∧
          (last.duration = 0 ∨ Undigited after) := by
  have refused : ofWords words = .error .tooManyPoints ↔ ∃ arguments,
      words = Keyword.points.text.toList :: arguments ∧
        pointsOfWords arguments = .error .tooManyPoints := by
    cases words with
    | nil => exact iff_of_false (by simp [ofWords]) (by simp)
    | cons word arguments =>
        simp only [List.cons.injEq, ← Keyword.ofWord?_eq_some]
        cases found : Keyword.ofWord? word with
        | none => simp [ofWords, found]
        | some keyword => simp [ofWords, found, ofArguments_eq_tooManyPoints]
  rw [refused]
  constructor
  · rintro ⟨_, rfl, long⟩
    obtain ⟨points, last, after, others, full, rfl, ends⟩ := pointsOfWords_eq_tooManyPoints.mp long
    exact ⟨points, last, after, others, full, rfl, ends⟩
  · rintro ⟨points, last, after, others, full, rfl, ends⟩
    exact ⟨_, rfl,
      pointsOfWords_eq_tooManyPoints.mpr ⟨points, last, after, others, full, rfl, ends⟩⟩

end Arguments

section Lines

/-- The command as an operator may type it: its keyword and its arguments, each after one or more
gaps. -/
def Typed (command : Command) (text : List Char) : Prop :=
  command.Storable ∧ ∃ rest, text = command.keyword.text.toList ++ rest ∧
    Follows (command.arguments.map String.toList) rest

/-- A curve is typed with a point too many, and anything may come after that point. What is no
numeral because it is too large is not cut off to make one. -/
def Overfull (text : List Char) : Prop :=
  ∃ (curve : List CurvePoint) (last : CurvePoint) (front rest : List Char),
    curve.length = Curve.maxPoints ∧
      text = Keyword.points.text.toList ++ front ++ rest ∧
      Follows ((points (some (curve ++ [last]))).arguments.map String.toList) front ∧
      (last.duration = 0 ∨ Undigited rest)

theorem isBlank_of_isDigit {char : Char} (digit : char.isDigit = true) :
    Text.isBlank char = false := by
  have range : 48 ≤ char.toNat ∧ char.toNat ≤ 57 := Char.isDigit_iff_toNat.mp digit
  simp [Text.isBlank, Text.blankRanges]
  omega

theorem unblank_toDigits (value : Nat) : Unblank (Nat.toDigits 10 value) :=
  ⟨Nat.toDigits_ne_nil, fun _ member =>
    isBlank_of_isDigit (Nat.isDigit_of_mem_toDigits (by decide) (by decide) member)⟩

theorem unblank_typed (point : CurvePoint) : Unblank point.typed := by
  refine ⟨by simp [CurvePoint.typed], fun char member => ?_⟩
  rcases List.mem_append.mp member with front | back
  · exact (unblank_toDigits _).2 char front
  · rcases List.mem_cons.mp back with rfl | back
    · decide
    · exact (unblank_toDigits _).2 char back

/-- No blank is typed in a word of a command. -/
theorem unblank_words (command : Command) :
    ∀ word ∈ command.words.map String.toList, Unblank word := by
  rw [Command.words, List.map_cons]
  refine List.forall_mem_cons.mpr ⟨?_, ?_⟩
  · generalize command.keyword = keyword
    cases keyword <;> decide
  · cases command with
    | openBreaker | closeBreaker | status | log | help => exact List.forall_mem_nil _
    | points curve =>
        cases curve with
        | none => exact List.forall_mem_nil _
        | some curve =>
            rw [arguments_points]
            intro word member
            obtain ⟨point, _, rfl⟩ := List.mem_map.mp member
            exact unblank_typed point
    | limit limit =>
        cases limit with
        | none => exact List.forall_mem_nil _
        | some limit => simp [arguments, unblank_toDigits]
    | recovery values =>
        cases values with
        | none => exact List.forall_mem_nil _
        | some values =>
            obtain ⟨enabled, attempts, delay, reset⟩ := values
            have switch : Unblank (if enabled then "on" else "off").toList := by
              cases enabled <;> decide
            simp [arguments, unblank_toDigits, switch]
    | mode mode =>
        cases mode with
        | none => exact List.forall_mem_nil _
        | some mode =>
            have named : Unblank mode.name.toList := by cases mode <;> decide
            simp [arguments, named]
    | modulation settings =>
        cases settings with
        | none => exact List.forall_mem_nil _
        | some settings => simp [arguments, unblank_toDigits]

theorem Typed.trimmed {command : Command} {text : List Char} (typed : command.Typed text) :
    Trimmed text ∧ text ≠ [] := by
  obtain ⟨_, rest, rfl, follows⟩ := typed
  have unblank := unblank_words command
  rw [Command.words, List.map_cons] at unblank
  exact ⟨follows.trimmed unblank, by simp [(unblank _ List.mem_cons_self).1]⟩

theorem words_eq_iff_typed {text : List Char} (trimmed : Trimmed text) (command : Command) :
    ofWords (Text.words text) = .ok command ↔ command.Typed text := by
  have unblank := unblank_words command
  rw [ofWords_eq_ok]
  refine and_congr_right fun _ => ?_
  rw [Command.words, List.map_cons] at unblank ⊢
  obtain ⟨first, others⟩ := List.forall_mem_cons.mp unblank
  constructor
  · exact Text.laid_of_words trimmed.leads trimmed.ends
  · rintro ⟨rest, rfl, follows⟩
    rw [Text.words_append first.solid follows.parted,
      follows.words_eq fun word member => (others word member).solid]

theorem undigited_append {after more : List Char} (ends : Undigited after) (parted : Parted more) :
    Undigited (after ++ more) := by
  cases after with
  | cons first after => exact ends
  | nil =>
      intro char head
      have gap := parted char head
      simp only [Text.isGap, Bool.or_eq_true, decide_eq_true_eq] at gap
      rcases gap with rfl | rfl <;> decide

theorem words_eq_iff_overfull {text : List Char} (trimmed : Trimmed text) :
    ofWords (Text.words text) = .error .tooManyPoints ↔ Overfull text := by
  rw [ofWords_eq_tooManyPoints]
  constructor
  · rintro ⟨curve, last, after, others, full, read, ends⟩
    obtain ⟨rest, rfl, follows⟩ := Text.laid_of_words trimmed.leads trimmed.ends read
    obtain ⟨front, back, rfl, laid, follows⟩ := follows.split
    cases follows with
    | @next _ gap more _ apart gaps following =>
        refine ⟨curve, last, front ++ (gap ++ last.typed ++ []), after ++ more, full, by simp, ?_,
          ends.imp_right fun ends => undigited_append ends following.parted⟩
        rw [arguments_points, List.map_append]
        exact laid.append (.next apart gaps .done)
  · rintro ⟨curve, last, front, rest, full, rfl, follows, ends⟩
    rw [arguments_points, List.map_append] at follows
    obtain ⟨laid, back, rfl, points, follows⟩ := follows.split
    obtain ⟨after, more, rfl, solid, parted⟩ := Text.split_at_gap rest
    cases follows with
    | @next _ gap _ _ apart gaps none =>
        cases none
        have keyword : Solid Keyword.points.text.toList := Unblank.solid (by decide)
        have typed : ∀ word ∈ curve.map CurvePoint.typed, Solid word :=
          List.forall_mem_map.mpr fun point _ => (unblank_typed point).solid
        have lengthened : Solid (last.typed ++ after) :=
          ⟨by simp [(unblank_typed last).1],
            List.forall_mem_append.mpr ⟨(unblank_typed last).solid.2, solid⟩⟩
        have parts : Parted (gap ++ (last.typed ++ after ++ more)) :=
          Text.parted_append apart gaps _
        refine ⟨curve, last, after, Text.words more, full, ?_, ends.imp_right fun ends => ?_⟩
        · calc
            Text.words (Keyword.points.text.toList ++ (laid ++ (gap ++ last.typed ++ [])) ++
                (after ++ more)) =
                Text.words (Keyword.points.text.toList ++
                  (laid ++ (gap ++ (last.typed ++ after ++ more)))) := by
              simp only [List.append_nil, List.append_assoc]
            _ = Keyword.points.text.toList :: (curve.map CurvePoint.typed ++
                  Text.words (gap ++ (last.typed ++ after ++ more))) := by
              rw [Text.words_append keyword (points.parted_append parts),
                points.words_append typed parts]
            _ = _ := by rw [Text.words_gaps gaps, Text.words_append lengthened parted]
        · intro char head
          exact ends char (List.mem_head?_append_of_mem_head? head)

/-- A line is read as the command that is typed in it, and refused for its points if there are too
many of them. Any other line is malformed. What is typed may have blanks around it. -/
theorem parse_exactly (line : String) :
    (∀ command, parse line = .ok command ↔ command.Typed (Text.trim line.toList)) ∧
      (parse line = .error .tooManyPoints ↔ Overfull (Text.trim line.toList)) ∧
      (parse line = .error .malformed ↔
        (∀ command : Command, ¬ command.Typed (Text.trim line.toList)) ∧
          ¬ Overfull (Text.trim line.toList)) ∧
      ∀ (command : Command) (lead text trail : List Char), command.Typed text →
        (∀ char ∈ lead, Text.isBlank char = true) → (∀ char ∈ trail, Text.isBlank char = true) →
        line = String.ofList (lead ++ text ++ trail) → parse line = .ok command := by
  have trimmed := Text.trimmed_trim line.toList
  have accepted (command : Command) :
      parse line = .ok command ↔ command.Typed (Text.trim line.toList) :=
    words_eq_iff_typed trimmed command
  have overfull : parse line = .error .tooManyPoints ↔ Overfull (Text.trim line.toList) :=
    words_eq_iff_overfull trimmed
  refine ⟨accepted, overfull, ?_, ?_⟩
  · simp only [← accepted, ← overfull]
    cases parse line with
    | ok command => simp
    | error reason => cases reason <;> simp
  · rintro command lead text trail typed before behind rfl
    obtain ⟨ends, filled⟩ := typed.trimmed
    rw [accepted, String.toList_ofList, Text.trim_between ends filled before behind]
    exact typed

end Lines

end Command

end CircuitBreaker
