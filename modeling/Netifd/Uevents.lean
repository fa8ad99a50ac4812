import Mathlib.Data.List.TakeWhile
import Mathlib.Data.Nat.Notation
import Mathlib.Tactic.Common

/-!
# Hotplug events of the kernel

`handle_hotplug_msg` of `system-linux.c` reads a message that consists of a header and of fields
`KEY=value`, all of which end with a zero. The memory behind the message is zero.
-/

namespace Netifd.Uevents

/-- The part of `struct device` that an event depends on. -/
structure Device where
  ifname : List Char
  simple : Bool

/-- The tree `devices`, in which no name is there twice. -/
structure DeviceTree where
  elements : List Device
  names_nodup : (elements.map (·.ifname)).Nodup

def deviceFind (devices : DeviceTree) (name : List Char) : Option Device :=
  devices.elements.find? (·.ifname == name)

def interfaceKey : List Char := "INTERFACE".toList
def subsystemKey : List Char := "SUBSYSTEM".toList
def netSubsystem : List Char := "net".toList

/-- `subsystem`, which is `net` once it is known, and `interface`. -/
structure Seen where
  subsystem : Bool := false
  interface : Option (List Char) := none

/-- One turn of the loop of `handle_hotplug_msg`, up to the test whether both are known. There is
no result if the message is of another subsystem. -/
def readField (seen : Seen) (field : List Char) : Option Seen :=
  if '=' ∈ field then
    let key := field.takeWhile (· ≠ '=')
    let value := (field.dropWhile (· ≠ '=')).tail
    if key = interfaceKey then some { seen with interface := some value }
    else if key = subsystemKey then
      if value = netSubsystem then some { seen with subsystem := true } else none
    else some seen
  else some seen

/-- The interface, if both are known. -/
def Seen.found (seen : Seen) : Option (List Char) := if seen.subsystem then seen.interface else none

/-- The loop of `handle_hotplug_msg` over what is left of the message. -/
def scan (seen : Seen) (rest : List Char) : Option (List Char) :=
  if _hrest : rest = [] then none
  else
    let cur := rest.takeWhile (· ≠ '\x00')
    match readField seen cur with
    | none => none
    | some seen =>
      match seen.found with
      | some interface => some interface
      | none => scan seen (rest.drop (cur.length + 1))
termination_by rest.length
decreasing_by
  have hpos := List.length_pos_iff.mpr _hrest
  rw [List.length_drop]
  omega

/-- The interface that a message is about, and whether it has come. -/
def parse (data : List Char) : Option (List Char × Bool) :=
  let skip := (data.takeWhile (· ≠ '\x00')).length + 1
  if "add@".toList.isPrefixOf data then (scan {} (data.drop skip)).map (·, true)
  else if "remove@".toList.isPrefixOf data then (scan {} (data.drop skip)).map (·, false)
  else none

/-- `handle_hotplug_msg`: the call of `device_set_present`, if there is one. -/
def handleHotplugMsg (forceExternal : List Char → Bool) (devices : DeviceTree)
    (data : List Char) : Option (Device × Bool) :=
  match parse data with
  | none => none
  | some (interface, add) =>
    match deviceFind devices interface with
    | none => none
    | some dev => if !dev.simple || add && forceExternal dev.ifname then none else some (dev, add)

/-- An event as the kernel reports it: what has happened, the path of the device, and variables. -/
structure Message where
  action : List Char
  path : List Char
  env : List (List Char × List Char)
  action_plain : '\x00' ∉ action ∧ '@' ∉ action
  path_nul : '\x00' ∉ path
  keys : (env.map (·.1)).Nodup
  key_plain : ∀ e ∈ env, '\x00' ∉ e.1 ∧ '=' ∉ e.1
  value_plain : ∀ e ∈ env, '\x00' ∉ e.2

/-- The field for a variable. -/
def encodeField (e : List Char × List Char) : List Char := e.1 ++ '=' :: e.2

/-- The fields for all variables. -/
def encodeEnv (env : List (List Char × List Char)) : List Char :=
  env.flatMap fun e => encodeField e ++ ['\x00']

namespace Message

variable (m : Message)

def header : List Char := m.action ++ '@' :: m.path

def encode : List Char := m.header ++ '\x00' :: encodeEnv m.env

/-- Whether something has come or gone, if that is what has happened. -/
def comes : Option Bool :=
  if m.action = "add".toList then some true
  else if m.action = "remove".toList then some false
  else none

/-- The interface that the event is about: that of the variable, for an event of the network. -/
def subject : Option (List Char) :=
  if m.env.lookup subsystemKey = some netSubsystem then m.env.lookup interfaceKey
  else none

end Message

theorem takeWhile_field {field : List Char} (hnul : '\x00' ∉ field) (rest : List Char) :
    (field ++ '\x00' :: rest).takeWhile (· ≠ '\x00') = field := by
  have hall : ∀ c ∈ field, decide (c ≠ '\x00') = true := by
    intro c hc
    have hne : c ≠ '\x00' := fun h => hnul (h ▸ hc)
    simpa using hne
  rw [List.takeWhile_append_of_pos hall]
  simp

theorem readField_encode (seen : Seen) {key : List Char} (hkey : '=' ∉ key) (value : List Char) :
    readField seen (encodeField (key, value)) =
      if key = interfaceKey then some { seen with interface := some value }
      else if key = subsystemKey then
        if value = netSubsystem then some { seen with subsystem := true } else none
      else some seen := by
  have hall : ∀ c ∈ key, decide (c ≠ '=') = true := by
    intro c hc
    have hne : c ≠ '=' := fun h => hkey (h ▸ hc)
    simpa using hne
  have htake : (encodeField (key, value)).takeWhile (· ≠ '=') = key := by
    rw [encodeField, List.takeWhile_append_of_pos hall]
    simp
  have hdrop : ((encodeField (key, value)).dropWhile (· ≠ '=')).tail = value := by
    rw [encodeField, List.dropWhile_append_of_pos hall]
    simp
  have hmem : '=' ∈ encodeField (key, value) := by simp [encodeField]
  rw [readField, if_pos hmem, htake, hdrop]

theorem scan_field (seen : Seen) {field : List Char} (hnul : '\x00' ∉ field) (rest : List Char) :
    scan seen (field ++ '\x00' :: rest) =
      match readField seen field with
      | none => none
      | some seen =>
        match seen.found with
        | some interface => some interface
        | none => scan seen rest := by
  have hne : field ++ '\x00' :: rest ≠ [] := by simp
  have hdrop : (field ++ '\x00' :: rest).drop (field.length + 1) = rest := by
    rw [← List.singleton_append, ← List.append_assoc]
    exact List.drop_left' (by simp)
  rw [scan, dif_neg hne]
  simp only [takeWhile_field hnul, hdrop]

/-- What is known already is not among the variables that are left. -/
structure Fresh (seen : Seen) (env : List (List Char × List Char)) : Prop where
  keys : (env.map (·.1)).Nodup
  interface : seen.interface ≠ none → interfaceKey ∉ env.map (·.1)
  subsystem : seen.subsystem = true → subsystemKey ∉ env.map (·.1)
  missing : seen.found = none

/-- What is known in the end. -/
def result (seen : Seen) (env : List (List Char × List Char)) : Option (List Char) :=
  if seen.subsystem = true ∨ env.lookup subsystemKey = some netSubsystem then
    seen.interface.or (env.lookup interfaceKey)
  else none

theorem Fresh.tail {seen : Seen} {e : List Char × List Char} {env : List (List Char × List Char)}
    (h : Fresh seen (e :: env)) : Fresh seen env where
  keys := (List.nodup_cons.mp h.keys).2
  interface := fun hsome hmem => h.interface hsome (List.mem_cons_of_mem _ hmem)
  subsystem := fun hnet hmem => h.subsystem hnet (List.mem_cons_of_mem _ hmem)
  missing := h.missing

section Turns

variable {seen : Seen} {value : List Char} {env : List (List Char × List Char)}

theorem subsystem_ne_interface : subsystemKey ≠ interfaceKey := by decide

theorem lookup_other {key key' : List Char} (hne : key ≠ key') :
    List.lookup key ((key', value) :: env) = List.lookup key env := by
  rw [List.lookup_cons, beq_eq_false_iff_ne.mpr hne]

theorem result_interface (h : Fresh seen ((interfaceKey, value) :: env)) :
    (match ({ seen with interface := some value } : Seen).found with
      | some interface => some interface
      | none => result { seen with interface := some value } env) =
      result seen ((interfaceKey, value) :: env) := by
  have hnone : seen.interface = none := by
    by_contra hsome
    exact h.interface hsome List.mem_cons_self
  have hlookup : List.lookup subsystemKey ((interfaceKey, value) :: env) =
      List.lookup subsystemKey env :=
    lookup_other subsystem_ne_interface
  cases hnet : seen.subsystem with
  | true => simp [Seen.found, result, hnet, hnone]
  | false => simp [Seen.found, result, hnet, hnone, hlookup]

theorem result_subsystem :
    (match ({ seen with subsystem := true } : Seen).found with
      | some interface => some interface
      | none => result { seen with subsystem := true } env) =
      result seen ((subsystemKey, netSubsystem) :: env) := by
  have hlookup : List.lookup interfaceKey ((subsystemKey, netSubsystem) :: env) =
      List.lookup interfaceKey env :=
    lookup_other subsystem_ne_interface.symm
  cases hinterface : seen.interface with
  | none => simp [Seen.found, result, hinterface, hlookup]
  | some interface => simp [Seen.found, result, hinterface]

theorem Fresh.with_interface (h : Fresh seen ((interfaceKey, value) :: env))
    (hnet : seen.subsystem = false) : Fresh { seen with interface := some value } env where
  keys := h.tail.keys
  interface := fun _ => (List.nodup_cons.mp h.keys).1
  subsystem := h.tail.subsystem
  missing := by simp [Seen.found, hnet]

theorem Fresh.with_subsystem (h : Fresh seen ((subsystemKey, value) :: env))
    (hnone : seen.interface = none) : Fresh { seen with subsystem := true } env where
  keys := h.tail.keys
  interface := h.tail.interface
  subsystem := fun _ => (List.nodup_cons.mp h.keys).1
  missing := by simp [Seen.found, hnone]

end Turns

/-- All variables are read until both are known, or the subsystem is another one. -/
theorem scan_env (env : List (List Char × List Char)) (seen : Seen) (hfresh : Fresh seen env)
    (hkey : ∀ e ∈ env, '\x00' ∉ e.1 ∧ '=' ∉ e.1) (hvalue : ∀ e ∈ env, '\x00' ∉ e.2) :
    scan seen (encodeEnv env) = result seen env := by
  induction env generalizing seen with
  | nil =>
    have hmissing := hfresh.missing
    rw [encodeEnv, List.flatMap_nil, scan, dif_pos rfl]
    simpa [result, Seen.found] using hmissing.symm
  | cons e env ih =>
    obtain ⟨key, value⟩ := e
    obtain ⟨hnul, heq⟩ := hkey (key, value) List.mem_cons_self
    have hfield : '\x00' ∉ encodeField (key, value) := by
      have hv := hvalue (key, value) List.mem_cons_self
      simpa [encodeField, hnul] using hv
    have hrest (seen : Seen) (h : Fresh seen env) : scan seen (encodeEnv env) = result seen env :=
      ih seen h (fun e he => hkey e (List.mem_cons_of_mem _ he))
        fun e he => hvalue e (List.mem_cons_of_mem _ he)
    have hcons : encodeEnv ((key, value) :: env) =
        encodeField (key, value) ++ '\x00' :: encodeEnv env := by
      simp [encodeEnv]
    rw [hcons, scan_field seen hfield, readField_encode seen heq]
    by_cases hinterface : key = interfaceKey
    · subst hinterface
      rw [if_pos rfl, ← result_interface hfresh]
      by_cases hnet : seen.subsystem = true
      · simp [Seen.found, hnet]
      · have hlater := hrest _ (hfresh.with_interface (by simpa using hnet))
        simp only [hlater]
    · rw [if_neg hinterface]
      by_cases hsubsystem : key = subsystemKey
      · subst hsubsystem
        rw [if_pos rfl]
        have hnet : seen.subsystem = false := by
          by_contra hnet
          exact hfresh.subsystem (by simpa using hnet) List.mem_cons_self
        by_cases hvalue : value = netSubsystem
        · subst hvalue
          rw [if_pos rfl, ← result_subsystem]
          by_cases hnone : seen.interface = none
          · have hlater := hrest _ (hfresh.with_subsystem hnone)
            simp only [hlater]
          · obtain ⟨interface, hsome⟩ := Option.ne_none_iff_exists'.mp hnone
            simp [Seen.found, hsome]
        · rw [if_neg hvalue]
          simp [result, hnet, hvalue]
      · have hlater := hrest seen hfresh.tail
        rw [if_neg hsubsystem]
        simp only [hfresh.missing, hlater]
        rw [result, result, lookup_other (Ne.symm hinterface),
          lookup_other (Ne.symm hsubsystem)]

theorem header_plain (m : Message) : '\x00' ∉ m.header := by
  have haction := m.action_plain.1
  have hpath := m.path_nul
  simp [Message.header, haction, hpath]

theorem append_separator_inj {α : Type} {sep : α} {a b x y : List α} (ha : sep ∉ a)
    (hb : sep ∉ b) : a ++ sep :: x = b ++ sep :: y ↔ a = b ∧ x = y := by
  constructor
  · intro h
    rcases List.append_eq_append_iff.mp h with ⟨mid, rfl, hmid⟩ | ⟨mid, rfl, hmid⟩
    · cases mid with
      | nil => simpa using hmid
      | cons c mid =>
        obtain ⟨rfl, -⟩ := List.cons.inj hmid
        exact absurd (List.mem_append_right _ List.mem_cons_self) hb
    · cases mid with
      | nil => simpa using hmid.symm
      | cons c mid =>
        obtain ⟨rfl, -⟩ := List.cons.inj hmid
        exact absurd (List.mem_append_right _ List.mem_cons_self) ha
  · rintro ⟨rfl, rfl⟩
    rfl

theorem isPrefixOf_encode (m : Message) {action : List Char} (hplain : '@' ∉ action) :
    (action ++ ['@']).isPrefixOf m.encode = true ↔ m.action = action := by
  have hencode : m.encode = m.action ++ '@' :: (m.path ++ '\x00' :: encodeEnv m.env) := by
    simp [Message.encode, Message.header]
  rw [List.isPrefixOf_iff_prefix]
  constructor
  · rintro ⟨rest, hrest⟩
    rw [hencode, List.append_assoc, List.singleton_append,
      append_separator_inj hplain m.action_plain.2] at hrest
    exact hrest.1.symm
  · rintro rfl
    exact ⟨m.path ++ '\x00' :: encodeEnv m.env, by
      rw [hencode, List.append_assoc, List.singleton_append]⟩

theorem scan_message (m : Message) : scan {} (encodeEnv m.env) = m.subject := by
  have hfresh : Fresh {} m.env := by
    constructor
    · exact m.keys
    · intro hsome
      exact absurd rfl hsome
    · intro hnet
      simp at hnet
    · rfl
  rw [scan_env m.env {} hfresh m.key_plain m.value_plain]
  simp [result, Message.subject]

theorem parse_encode (m : Message) :
    parse m.encode = m.comes.bind fun add => m.subject.map (·, add) := by
  have hskip : m.encode.drop ((m.encode.takeWhile (· ≠ '\x00')).length + 1) = encodeEnv m.env := by
    rw [Message.encode, takeWhile_field (header_plain m), ← List.singleton_append,
      ← List.append_assoc]
    exact List.drop_left' (by simp)
  have hadd := isPrefixOf_encode m (by decide : '@' ∉ "add".toList)
  have hremove := isPrefixOf_encode m (by decide : '@' ∉ "remove".toList)
  rw [parse, hskip, scan_message, Message.comes]
  change "add@".toList.isPrefixOf m.encode = true ↔ _ at hadd
  change "remove@".toList.isPrefixOf m.encode = true ↔ _ at hremove
  simp only [hadd, hremove]
  split_ifs <;> rfl

theorem deviceFind_eq_some {devices : DeviceTree} {name : List Char} {dev : Device} :
    deviceFind devices name = some dev ↔ dev ∈ devices.elements ∧ dev.ifname = name := by
  constructor
  · intro h
    exact ⟨List.mem_of_find?_eq_some h, by simpa using List.find?_some h⟩
  · rintro ⟨hmem, rfl⟩
    obtain ⟨before, after, hsplit⟩ := List.append_of_mem hmem
    have hnames := devices.names_nodup
    rw [hsplit, List.map_append, List.map_cons] at hnames
    rw [deviceFind, hsplit, List.find?_append]
    have hnone : before.find? (·.ifname == dev.ifname) = none := by
      refine List.find?_eq_none.mpr fun other hother => ?_
      have hne := (List.nodup_append.mp hnames).2.2 other.ifname (List.mem_map_of_mem hother)
        dev.ifname List.mem_cons_self
      simpa using hne
    simp [hnone]

/-- In whichever order the kernel reports the variables of an event, and whatever else it reports,
`device_set_present` is called just for the simple device that an event of the network is about,
when it comes or goes, and not if it comes as one that is left to others. -/
theorem uevent_handled (m : Message) (forceExternal : List Char → Bool) (devices : DeviceTree)
    (dev : Device) (present : Bool) :
    handleHotplugMsg forceExternal devices m.encode = some (dev, present) ↔
      m.comes = some present ∧ m.subject = some dev.ifname ∧ dev ∈ devices.elements ∧
        dev.simple = true ∧ ¬(present = true ∧ forceExternal dev.ifname = true) := by
  rw [handleHotplugMsg, parse_encode]
  cases hcomes : m.comes with
  | none => simp
  | some add =>
    cases hsubject : m.subject with
    | none => simp
    | some interface =>
      simp only [Option.bind_some, Option.map_some, Option.some.injEq]
      cases hfind : deviceFind devices interface with
      | none =>
        constructor
        · intro h
          cases h
        · rintro ⟨-, rfl, hmem, -⟩
          rw [deviceFind_eq_some.mpr ⟨hmem, rfl⟩] at hfind
          cases hfind
      | some found =>
        obtain ⟨hmem, hname⟩ := deviceFind_eq_some.mp hfind
        subst hname
        have hsame : ∀ {dev : Device}, found.ifname = dev.ifname → dev ∈ devices.elements →
            found = dev := fun hname hdev =>
          Option.some.inj (hfind.symm.trans (deviceFind_eq_some.mpr ⟨hdev, hname.symm⟩))
        constructor
        · intro h
          dsimp only at h
          split_ifs at h with hleft
          obtain ⟨rfl, rfl⟩ := Prod.mk.inj (Option.some.inj h)
          simp only [Bool.or_eq_true, Bool.not_eq_true', Bool.and_eq_true, not_or] at hleft
          exact ⟨rfl, rfl, hmem, by simpa using hleft.1, hleft.2⟩
        · rintro ⟨rfl, hname, hdev, hsimple, hleft⟩
          obtain rfl := hsame hname hdev
          dsimp only
          rw [if_neg]
          simp only [hsimple, Bool.not_true, Bool.false_or, Bool.and_eq_true]
          exact hleft

end Netifd.Uevents
