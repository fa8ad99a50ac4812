import Netifd.InterfaceConfiguration
import Netifd.ProcessLogs
import Netifd.StringArenas

/-!
# Parameters of handler scripts

A script describes its parameters in JSON, each by a name, which a text for the validation may
follow behind a colon, and by a type. `netifd_handler_parse_config` of `handler.c` keeps all texts
in one buffer, which the parameters point into, and `uci_get_validate_string` of `utils.c` is what
is shown of them.
-/

namespace Netifd.HandlerParameters
open StringArenas
open ProcessLogs (cString)

/-- The JSON values that the parser tells apart. -/
inductive Json
  | array (items : List Json)
  | string (text : List Char)
  | int (value : ℤ)
  | other

def BLOBMSG_TYPE_ARRAY : ℕ := 1
def BLOBMSG_TYPE_STRING : ℕ := 3
def BLOBMSG_TYPE_INT32 : ℕ := 5
def BLOBMSG_TYPE_BOOL : ℕ := 7
def BLOBMSG_TYPE_LAST : ℕ := 8

/-- `struct blobmsg_policy` in the first loop, where the name is still that of the JSON value. -/
structure Attr where
  name : List Char
  type : ℕ

/-- `struct blobmsg_policy`, whose name is a place in the buffer. -/
structure Param where
  name : ℕ
  type : ℕ

/-- `struct uci_blob_param_list` with the buffer that it points into. -/
structure ParamList where
  params : List Param := []
  validate : List (Option ℕ) := []
  strBuf : Arena Char := []

/-- What becomes of a description: a list, an error, or a write outside the buffer. -/
inductive Outcome
  | parsed (config : ParamList)
  | error
  | fault

/-- `json_object_get_int`, assigned to an `enum`. -/
def jsonType (value : ℤ) : ℕ := (max (-2 ^ 31) (min value (2 ^ 31 - 1)) % 2 ^ 32).toNat

/-- One turn of the first loop of `netifd_handler_parse_config`. -/
def readAttr : Json → Option Attr
  | .array (.string name :: .int type :: _) =>
    if BLOBMSG_TYPE_LAST < jsonType type then none
    else some { name := cString name, type := jsonType type }
  | _ => none

/-- The first loop of `netifd_handler_parse_config`, with `str_len`. -/
def firstLoop (strLen : ℤ) : List Json → Option (List Attr × ℤ)
  | [] => some ([], strLen)
  | cur :: obj =>
    match readAttr cur with
    | none => none
    | some attr =>
      (firstLoop (toInt32 (strLen + attr.name.length + 1)) obj).map fun r => (attr :: r.1, r.2)

/-- The second loop of `netifd_handler_parse_config`. There is no result if it writes or reads
outside the buffer. -/
def secondLoop : List Attr → Arena Char → ℕ → Option (List (Param × Option ℕ) × Arena Char)
  | [], strBuf, _ => some ([], strBuf)
  | attr :: attrs, strBuf, strCur => do
    let param : Param := { name := strCur, type := attr.type }
    let strBuf ← store strBuf strCur (attr.name ++ ['\x00'])
    let next := strCur + attr.name.length + 1
    match ← findAt '\x00' ':' strBuf strCur with
    | some delim =>
      let strBuf ← store strBuf delim ['\x00']
      let rest ← secondLoop attrs strBuf next
      pure ((param, some (delim + 1)) :: rest.1, rest.2)
    | none =>
      let rest ← secondLoop attrs strBuf next
      pure ((param, none) :: rest.1, rest.2)

/-- `netifd_handler_parse_config`. There is no memory of a size below zero. -/
def netifdHandlerParseConfig (obj : List Json) : Outcome :=
  match firstLoop 0 obj with
  | none => .error
  | some (attrs, strLen) =>
    if strLen < 0 then .error
    else
      match secondLoop attrs (Arena.alloc strLen.toNat) 0 with
      | none => .fault
      | some (params, strBuf) =>
        .parsed { params := params.map (·.1), validate := params.map (·.2), strBuf }

def uciValidateName (type : ℕ) : Option String :=
  if type = BLOBMSG_TYPE_STRING then some "string"
  else if type = BLOBMSG_TYPE_ARRAY then some "list(string)"
  else if type = BLOBMSG_TYPE_INT32 then some "uinteger"
  else if type = BLOBMSG_TYPE_BOOL then some "bool"
  else none

/-- The text that an entry of `validate` points to, if there is one. -/
def ParamList.validateText (p : ParamList) (i : ℕ) : Option (List Char) :=
  match p.validate[i]? with
  | some (some offset) => textAt '\x00' p.strBuf offset
  | _ => none

/-- `uci_get_validate_string`. There is no text if it reads outside of `validate`, or if it
returns `NULL`. -/
def uciGetValidateString (p : ParamList) (i : ℕ) (type : ℕ) : Option (List Char) :=
  match p.validate[i]? with
  | none => none
  | some (some offset) => textAt '\x00' p.strBuf offset
  | some none =>
    match uciValidateName type with
    | some name => some name.toList
    | none => p.validateText BLOBMSG_TYPE_STRING

/-- One turn of the loops of `wireless_device_get_validate` and `proto_dump_handlers`. -/
def dumpParam (p : ParamList) (param : Param) (i : ℕ) : Option (List Char × List Char) := do
  let name ← textAt '\x00' p.strBuf param.name
  let text ← uciGetValidateString p i param.type
  pure (name, text)

/-- The loops of `wireless_device_get_validate` and `proto_dump_handlers` over the parameters. -/
def dumpParams (p : ParamList) : Option (List (List Char × List Char)) :=
  p.params.zipIdx.mapM fun q => dumpParam p q.1 q.2

/-- A parameter as the script describes it. -/
structure Declared where
  name : List Char
  type : ℕ
  validate : Option (List Char)
  deriving DecidableEq

/-- The part of a name up to the first colon. -/
def beforeColon (name : List Char) : List Char := name.takeWhile (· ≠ ':')

/-- The part of a name behind the first colon. -/
def afterColon (name : List Char) : List Char := (name.dropWhile (· ≠ ':')).tail

/-- The name is cut at the first colon. -/
def Attr.declared (attr : Attr) : Declared where
  name := beforeColon attr.name
  type := attr.type
  validate := if ':' ∈ attr.name then some (afterColon attr.name) else none

/-- The parameters that are described, if the description is valid. -/
def declared (obj : List Json) : Option (List Declared) :=
  (obj.mapM readAttr).map fun attrs => attrs.map Attr.declared

/-- The memory that the names take. -/
def textLength (obj : List Json) : ℕ :=
  ((obj.filterMap readAttr).map fun attr => attr.name.length + 1).sum

/-- What the list says of a parameter, read from the buffer. -/
def readParam (strBuf : Arena Char) (param : Param) (validate : Option ℕ) : Option Declared := do
  let name ← textAt '\x00' strBuf param.name
  match validate with
  | none => pure { name, type := param.type, validate := none }
  | some offset =>
    let text ← textAt '\x00' strBuf offset
    pure { name, type := param.type, validate := some text }

/-- All that the list says. -/
def ParamList.content (p : ParamList) : Option (List Declared) :=
  (p.params.zip p.validate).mapM fun q => readParam p.strBuf q.1 q.2

/-- What the text of a parameter is in the end. -/
def rendered (name : List Char) : List Char :=
  if ':' ∈ name then
    beforeColon name ++ '\x00' :: (afterColon name ++ ['\x00'])
  else name ++ ['\x00']

/-- Where the texts of the parameters are. -/
def places (offset : ℕ) : List Attr → List (Param × Option ℕ)
  | [] => []
  | attr :: attrs =>
    ({ name := offset, type := attr.type },
      if ':' ∈ attr.name then some (offset + (beforeColon attr.name).length + 1)
      else none) :: places (offset + attr.name.length + 1) attrs

/-- The room that the names take. -/
def room (attrs : List Attr) : ℕ := (attrs.map fun attr => attr.name.length + 1).sum

theorem split_colon {name : List Char} (hcolon : ':' ∈ name) :
    name = beforeColon name ++ ':' :: afterColon name := by
  induction name with
  | nil => cases hcolon
  | cons c name ih =>
    by_cases hc : c = ':'
    · simp [beforeColon, afterColon, hc]
    · have hrest : ':' ∈ name := by
        rcases List.mem_cons.mp hcolon with h | h
        · exact absurd h.symm hc
        · exact h
      simpa [beforeColon, afterColon, hc] using ih hrest

theorem colon_notMem_beforeColon (name : List Char) : ':' ∉ beforeColon name := by
  intro h
  simpa using List.mem_takeWhile_imp h

theorem length_rendered (name : List Char) : (rendered name).length = name.length + 1 := by
  by_cases hcolon : ':' ∈ name
  · have hlen := congrArg List.length (split_colon hcolon)
    rw [List.length_append, List.length_cons] at hlen
    rw [rendered, if_pos hcolon, List.length_append, List.length_cons, List.length_append,
      List.length_singleton]
    omega
  · rw [rendered, if_neg hcolon, List.length_append, List.length_singleton]

theorem rendered_of_mem {name : List Char} (hcolon : ':' ∈ name) (rest : List Char) :
    rendered name ++ rest =
      beforeColon name ++ '\x00' :: (afterColon name ++ '\x00' :: rest) := by
  rw [rendered, if_pos hcolon]
  simp

theorem rendered_of_notMem {name : List Char} (hcolon : ':' ∉ name) (rest : List Char) :
    rendered name ++ rest = name ++ '\x00' :: rest := by
  rw [rendered, if_neg hcolon, List.append_assoc, List.singleton_append]

theorem nul_notMem_cString (data : List Char) : '\x00' ∉ cString data := by
  intro h
  simpa using List.mem_takeWhile_imp h

theorem nul_notMem_parts {name : List Char} (hnul : '\x00' ∉ name) :
    '\x00' ∉ beforeColon name ∧ '\x00' ∉ afterColon name :=
  ⟨fun h => hnul ((List.takeWhile_prefix _).subset h),
    fun h => hnul ((List.dropWhile_suffix _).subset (List.mem_of_mem_tail h))⟩

theorem store_cut {name : List Char} (hnul : '\x00' ∉ name) (hcolon : ':' ∈ name)
    (known : List Char) (left : ℕ) :
    findAt '\x00' ':' (Arena.known (known ++ (name ++ ['\x00'])) left) known.length =
        some (some (known.length + (beforeColon name).length)) ∧
      store (Arena.known (known ++ (name ++ ['\x00'])) left)
          (known.length + (beforeColon name).length) ['\x00'] =
        some (Arena.known (known ++ rendered name) left) := by
  have hparts := nul_notMem_parts hnul
  have hstored : name ++ ['\x00'] =
      beforeColon name ++ ':' :: (afterColon name ++ ['\x00']) := by
    rw [← List.cons_append, ← List.append_assoc, ← split_colon hcolon]
  rw [hstored]
  constructor
  · exact findAt_some hparts.1 (colon_notMem_beforeColon name) known _ left
  · rw [← List.length_append, ← List.append_assoc, store_middle, rendered, if_pos hcolon,
      List.append_assoc]

theorem secondLoop_known (attrs : List Attr) (known : List Char)
    (hnul : ∀ attr ∈ attrs, '\x00' ∉ attr.name) :
    secondLoop attrs (Arena.known known (room attrs)) known.length =
      some (places known.length attrs,
        Arena.known (known ++ attrs.flatMap fun attr => rendered attr.name) 0) := by
  induction attrs generalizing known with
  | nil => simp [secondLoop, places, room]
  | cons attr attrs ih =>
    have hname : '\x00' ∉ attr.name := hnul attr List.mem_cons_self
    have hroom : room (attr :: attrs) = (attr.name ++ ['\x00']).length + room attrs := by
      simp [room]
    have hrest := ih (known ++ rendered attr.name) fun b hb => hnul b (List.mem_cons_of_mem _ hb)
    rw [List.length_append, length_rendered, ← Nat.add_assoc, List.append_assoc] at hrest
    rw [hroom, secondLoop, store_end, List.flatMap_cons, places]
    by_cases hcolon : ':' ∈ attr.name
    · obtain ⟨hfound, hcut⟩ := store_cut hname hcolon known (room attrs)
      simp [hfound, hcut, hrest, hcolon]
    · have hfound := findAt_none hname hcolon (by decide) known [] (room attrs)
      have hrendered : rendered attr.name = attr.name ++ ['\x00'] := by
        rw [rendered, if_neg hcolon]
      rw [hrendered] at hrest
      simp [hfound, hrest, hcolon, hrendered]

theorem readParam_head (attr : Attr) (hnul : '\x00' ∉ attr.name) (known rest : List Char) :
    readParam (Arena.known (known ++ (rendered attr.name ++ rest)) 0)
        { name := known.length, type := attr.type }
        (if ':' ∈ attr.name then some (known.length + (beforeColon attr.name).length + 1)
          else none) =
      some attr.declared := by
  by_cases hcolon : ':' ∈ attr.name
  · have hparts := nul_notMem_parts hnul
    have hname := textAt_known hparts.1 known (afterColon attr.name ++ '\x00' :: rest) 0
    have htext := textAt_known hparts.2 (known ++ (beforeColon attr.name ++ ['\x00'])) rest 0
    rw [List.length_append, List.length_append, List.length_singleton] at htext
    rw [rendered_of_mem hcolon, if_pos hcolon]
    simp only [List.append_assoc, List.singleton_append, ← Nat.add_assoc] at htext
    simp [readParam, hname, htext, Attr.declared, hcolon]
  · have hname := textAt_known hnul known rest 0
    have hbefore : beforeColon attr.name = attr.name := by
      rw [beforeColon, List.takeWhile_eq_self_iff]
      intro c hc
      have hne : c ≠ ':' := fun h => hcolon (h ▸ hc)
      simpa using hne
    rw [rendered_of_notMem hcolon, if_neg hcolon]
    simp [readParam, hname, Attr.declared, hcolon, hbefore]

theorem readParam_places (attrs : List Attr) (known : List Char)
    (hnul : ∀ attr ∈ attrs, '\x00' ∉ attr.name) :
    (places known.length attrs).mapM (fun q =>
        readParam (Arena.known (known ++ attrs.flatMap fun attr => rendered attr.name) 0)
          q.1 q.2) =
      some (attrs.map Attr.declared) := by
  induction attrs generalizing known with
  | nil => rfl
  | cons attr attrs ih =>
    have hhead := readParam_head attr (hnul attr List.mem_cons_self) known
      (attrs.flatMap fun attr => rendered attr.name)
    have hrest := ih (known ++ rendered attr.name) fun b hb => hnul b (List.mem_cons_of_mem _ hb)
    rw [List.length_append, length_rendered, ← Nat.add_assoc, List.append_assoc] at hrest
    rw [places, List.mapM_cons, List.flatMap_cons, hhead, hrest]
    rfl

theorem firstLoop_eq (obj : List Json) (strLen : ℤ) (hpos : 0 ≤ strLen)
    (hlen : strLen + textLength obj < 2 ^ 31) :
    firstLoop strLen obj =
      (obj.mapM readAttr).map fun attrs => (attrs, strLen + room attrs) := by
  induction obj generalizing strLen with
  | nil => simp [firstLoop, room]
  | cons cur obj ih =>
    rw [firstLoop, List.mapM_cons]
    cases hcur : readAttr cur with
    | none => rfl
    | some attr =>
      have htext : textLength (cur :: obj) = attr.name.length + 1 + textLength obj := by
        simp [textLength, hcur]
      have hint : toInt32 (strLen + attr.name.length + 1) = strLen + attr.name.length + 1 := by
        rw [toInt32, Int.bmod_eq_of_le] <;> omega
      simp only [hint]
      rw [ih _ (by omega) (by push_cast [htext] at hlen; omega)]
      cases obj.mapM readAttr with
      | none => rfl
      | some attrs =>
        simp [room]
        omega

theorem nul_notMem_of_mapM {obj : List Json} {attrs : List Attr}
    (h : obj.mapM readAttr = some attrs) : ∀ attr ∈ attrs, '\x00' ∉ attr.name := by
  induction obj generalizing attrs with
  | nil =>
    obtain rfl : attrs = [] := by simpa using h.symm
    simp
  | cons cur obj ih =>
    rw [List.mapM_cons] at h
    cases hcur : readAttr cur with
    | none => simp [hcur] at h
    | some attr =>
      cases hrest : obj.mapM readAttr with
      | none => simp [hcur, hrest] at h
      | some rest =>
        obtain rfl : attrs = attr :: rest := by simpa [hcur, hrest] using h.symm
        have hattr : '\x00' ∉ attr.name := by
          unfold readAttr at hcur
          split at hcur
          · split at hcur
            · cases hcur
            · cases hcur
              exact nul_notMem_cString _
          · cases hcur
        simpa [hattr] using ih hrest

/-- The list for the parameters of a valid description. -/
def parameterList (attrs : List Attr) : ParamList where
  params := (places 0 attrs).map (·.1)
  validate := (places 0 attrs).map (·.2)
  strBuf := Arena.known (attrs.flatMap fun attr => rendered attr.name) 0

theorem netifdHandlerParseConfig_valid {obj : List Json} {attrs : List Attr}
    (hlen : textLength obj < 2 ^ 31) (hattrs : obj.mapM readAttr = some attrs) :
    netifdHandlerParseConfig obj = .parsed (parameterList attrs) := by
  have hfirst := firstLoop_eq obj 0 le_rfl (by omega)
  have hsecond := secondLoop_known attrs [] (nul_notMem_of_mapM hattrs)
  have hroom : ¬(0 + (room attrs : ℤ)) < 0 := by omega
  have hsize : (0 + (room attrs : ℤ)).toNat = room attrs := by omega
  rw [List.length_nil, List.nil_append] at hsecond
  rw [netifdHandlerParseConfig, hfirst, hattrs]
  simp only [Option.map_some, if_neg hroom, hsize, Arena.alloc_eq, hsecond]
  rfl

theorem parameterList_content {attrs : List Attr} (hnul : ∀ attr ∈ attrs, '\x00' ∉ attr.name) :
    (parameterList attrs).content = some (attrs.map Attr.declared) := by
  have hread := readParam_places attrs [] hnul
  rw [List.length_nil, List.nil_append] at hread
  rw [ParamList.content, parameterList, List.zip_map', List.map_id', hread]

/-- A description is taken over as it is, or not at all: every name is read up to its first
colon, and what is behind that is the text for the validation. -/
theorem parameters_parsed (obj : List Json) (hlen : textLength obj < 2 ^ 31) :
    match declared obj with
    | none => netifdHandlerParseConfig obj = .error
    | some ds => ∃ config, netifdHandlerParseConfig obj = .parsed config ∧
        config.validate.length = config.params.length ∧ config.content = some ds := by
  rw [declared]
  cases hattrs : obj.mapM readAttr with
  | none =>
    have hfirst := firstLoop_eq obj 0 le_rfl (by omega)
    rw [hattrs] at hfirst
    simp [netifdHandlerParseConfig, hfirst]
  | some attrs =>
    exact ⟨parameterList attrs, netifdHandlerParseConfig_valid hlen hattrs,
      by simp [parameterList], parameterList_content (nul_notMem_of_mapM hattrs)⟩

/-- A description with a name that is cut at its colon. -/
def mtuDescription : List Json :=
  [.array [.string ['m', 't', 'u', ':', 'x'], .int 5], .array [.string ['i', 'p'], .int 3]]

/-- The names of the description before they are cut. -/
def mtuAttrs : List Attr := [⟨['m', 't', 'u', ':', 'x'], 5⟩, ⟨['i', 'p'], 3⟩]

theorem parameters_parsed_mtu :
    textLength mtuDescription < 2 ^ 31 ∧
      ∃ config, netifdHandlerParseConfig mtuDescription = .parsed config ∧
        config.validate.length = config.params.length ∧
        config.content = some [⟨['m', 't', 'u'], 5, some ['x']⟩, ⟨['i', 'p'], 3, none⟩] := by
  have hlen : textLength mtuDescription < 2 ^ 31 := by decide
  exact ⟨hlen, parameters_parsed mtuDescription hlen⟩

/-- What is shown of a parameter: its own text, or the one for its type. Where there is neither,
it is the text of the fourth parameter. -/
def shown (ds : List Declared) (d : Declared) : Option (List Char) :=
  d.validate.or (((uciValidateName d.type).map String.toList).or (ds[3]?.bind (·.validate)))

theorem mapM_get {α β : Type} {f : α → Option β} {l : List α} {m : List β}
    (h : l.mapM f = some m) :
    m.length = l.length ∧ ∀ (i : ℕ) (a : α), l[i]? = some a → ∃ b, m[i]? = some b ∧ f a = some b := by
  induction l generalizing m with
  | nil =>
    obtain rfl : m = [] := by simpa using h.symm
    simp
  | cons x l ih =>
    rw [List.mapM_cons] at h
    cases hx : f x with
    | none => simp [hx] at h
    | some y =>
      cases hl : l.mapM f with
      | none => simp [hx, hl] at h
      | some rest =>
        obtain rfl : m = y :: rest := by simpa [hx, hl] using h.symm
        obtain ⟨hlen, hget⟩ := ih hl
        refine ⟨by simp [hlen], fun i a hi => ?_⟩
        cases i with
        | zero =>
          obtain rfl : x = a := by simpa using hi
          exact ⟨y, rfl, hx⟩
        | succ i => exact hget i a hi

theorem mapM_congr {α β γ : Type} {f : α → Option γ} {g : β → Option γ} {l : List α} {m : List β}
    (hlen : m.length = l.length)
    (h : ∀ (i : ℕ) (a : α) (b : β), l[i]? = some a → m[i]? = some b → f a = g b) :
    l.mapM f = m.mapM g := by
  induction l generalizing m with
  | nil =>
    obtain rfl : m = [] := List.length_eq_zero_iff.mp hlen
    rfl
  | cons x l ih =>
    cases m with
    | nil => simp at hlen
    | cons y m =>
      have hrest := ih (m := m) (by simpa using hlen) fun i => h (i + 1)
      rw [List.mapM_cons, List.mapM_cons, h 0 x y rfl rfl, hrest]

section Content

variable {p : ParamList} {ds : List Declared}

theorem content_get (hlen : p.validate.length = p.params.length) (h : p.content = some ds)
    {i : ℕ} {param : Param} (hi : p.params[i]? = some param) :
    ∃ d, ds[i]? = some d ∧ d.type = param.type ∧ textAt '\x00' p.strBuf param.name = some d.name ∧
      p.validateText i = d.validate ∧ p.validate[i]?.map Option.isSome = some d.validate.isSome := by
  have hlt : i < p.params.length := (List.getElem?_eq_some_iff.mp hi).1
  obtain ⟨v, hv⟩ : ∃ v, p.validate[i]? = some v := ⟨_, List.getElem?_eq_getElem (hlen ▸ hlt)⟩
  have hzip : (p.params.zip p.validate)[i]? = some (param, v) := by
    rw [List.getElem?_zip_eq_some]
    exact ⟨hi, hv⟩
  obtain ⟨d, hd, hread⟩ := (mapM_get h).2 i _ hzip
  refine ⟨d, hd, ?_⟩
  cases hname : textAt '\x00' p.strBuf param.name with
  | none => simp [readParam, hname] at hread
  | some name =>
    cases v with
    | none =>
      obtain rfl : _ = d := by simpa [readParam, hname] using hread
      simp [ParamList.validateText, hv]
    | some offset =>
      cases htext : textAt '\x00' p.strBuf offset with
      | none => simp [readParam, hname, htext] at hread
      | some text =>
        obtain rfl : _ = d := by simpa [readParam, hname, htext] using hread
        simp [ParamList.validateText, hv, htext]

theorem validateText_eq (hlen : p.validate.length = p.params.length) (h : p.content = some ds)
    (i : ℕ) : p.validateText i = ds[i]?.bind (·.validate) := by
  rcases Nat.lt_or_ge i p.params.length with hlt | hge
  · obtain ⟨d, hd, -, -, htext, -⟩ := content_get hlen h (List.getElem?_eq_getElem hlt)
    rw [htext, hd]
    rfl
  · have hds : ds[i]? = none := by
      rw [List.getElem?_eq_none_iff, (mapM_get h).1, List.length_zip, hlen, Nat.min_self]
      exact hge
    have hvalidate : p.validate[i]? = none := List.getElem?_eq_none_iff.mpr (hlen ▸ hge)
    rw [ParamList.validateText, hvalidate, hds]
    rfl

theorem uciGetValidateString_eq (hlen : p.validate.length = p.params.length)
    (h : p.content = some ds) {i : ℕ} {param : Param} {d : Declared}
    (hi : p.params[i]? = some param) (hd : ds[i]? = some d) :
    uciGetValidateString p i param.type = shown ds d := by
  obtain ⟨d', hd', htype, -, htext, hsome⟩ := content_get hlen h hi
  obtain rfl : d = d' := Option.some.inj (hd.symm.trans hd')
  rw [uciGetValidateString, shown, ← htype]
  cases hv : p.validate[i]? with
  | none => simp [hv] at hsome
  | some v =>
    cases v with
    | some offset =>
      have hown : textAt '\x00' p.strBuf offset = d.validate := by
        simpa [ParamList.validateText, hv] using htext
      obtain ⟨text, hsome⟩ : ∃ text, d.validate = some text :=
        Option.isSome_iff_exists.mp (by simpa [hv] using hsome.symm)
      simp [hown, hsome]
    | none =>
      have hnone : d.validate = none := by simpa [hv] using hsome
      have hfourth : p.validateText BLOBMSG_TYPE_STRING = ds[3]?.bind (·.validate) :=
        validateText_eq hlen h 3
      cases hname : uciValidateName d.type with
      | some name => simp [hnone]
      | none => simpa [hnone] using hfourth

theorem dumpParams_eq (hlen : p.validate.length = p.params.length) (h : p.content = some ds) :
    dumpParams p = ds.mapM fun d => (shown ds d).map (d.name, ·) := by
  have hds : ds.length = p.params.length := by
    rw [(mapM_get h).1, List.length_zip, hlen, Nat.min_self]
  refine mapM_congr (by rw [List.length_zipIdx, hds]) fun i q d hq hd => ?_
  obtain ⟨param, j⟩ := q
  obtain ⟨hi, rfl⟩ : p.params[i]? = some param ∧ i = j := by simpa using hq
  obtain ⟨d', hd', -, hname, -⟩ := content_get hlen h hi
  obtain rfl : d = d' := Option.some.inj (hd.symm.trans hd')
  rw [dumpParam, hname, uciGetValidateString_eq hlen h hi hd]
  cases shown ds d <;> rfl

end Content

/-- Every parameter is shown by its own text or by the one for its type; where there is neither,
the text of the fourth parameter is shown, and without such a text the code goes wrong. -/
theorem validation_shown (obj : List Json) (hlen : textLength obj < 2 ^ 31) {config : ParamList}
    (h : netifdHandlerParseConfig obj = .parsed config) :
    ∃ ds, declared obj = some ds ∧
      dumpParams config = ds.mapM fun d => (shown ds d).map (d.name, ·) := by
  have hparsed := parameters_parsed obj hlen
  cases hds : declared obj with
  | none =>
    rw [hds, h] at hparsed
    cases hparsed
  | some ds =>
    rw [hds] at hparsed
    obtain ⟨config', hconfig, hvalidate, hcontent⟩ := hparsed
    obtain rfl : config = config' := by simpa [h] using hconfig
    exact ⟨ds, rfl, dumpParams_eq hvalidate hcontent⟩

theorem validation_shown_mtu : ∃ config,
    netifdHandlerParseConfig mtuDescription = .parsed config ∧
      ∃ ds, declared mtuDescription = some ds ∧
        dumpParams config = ds.mapM fun d => (shown ds d).map (d.name, ·) := by
  have hlen : textLength mtuDescription < 2 ^ 31 := by decide
  have hparsed := netifdHandlerParseConfig_valid hlen (rfl : _ = some mtuAttrs)
  exact ⟨_, hparsed, validation_shown mtuDescription hlen hparsed⟩

/-- A parameter of no known type has no text of its own and takes that of the fourth, if any. -/
example : (shown [⟨['a'], 0, none⟩] ⟨['a'], 0, none⟩, shown [⟨['a'], 0, none⟩, ⟨['b'], 0, none⟩,
    ⟨['c'], 0, none⟩, ⟨['d'], 3, some ['x']⟩] ⟨['a'], 0, none⟩) = (none, some ['x']) := by decide

end Netifd.HandlerParameters
