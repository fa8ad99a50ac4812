import Netifd.PrefixLifetimes

/-!
# Addresses and routes of the scripts

`proto_add_ipv4_address`, `proto_add_ipv6_address`, `proto_add_ipv4_route` and
`proto_add_ipv6_route` of `netifd-proto.sh` pack their arguments into a word of a variable, and the
functions `_proto_push_*` take the words apart again. Between them the shell splits the variable
and takes each word for a pattern of file names.
-/

namespace Netifd.ProtoRecords

/-- `${str%%/*}`. -/
def beforeSlash (str : List Char) : List Char := str.takeWhile (· != '/')

/-- `${str#*/}`. -/
def afterSlash (str : List Char) : List Char :=
  match splitSlash str with
  | some (_, rest) => rest
  | none => str

/-- A character that makes a word a pattern. -/
def isPattern (c : Char) : Bool := c == '*' || c == '?' || c == '[' || c == '\\'

/-- The expansion of a word to the names of files: a word that is no pattern is left as it is, and
so is a pattern of no file; a slash stands only for itself. -/
structure PathnameExpansion where
  words : List Char → List (List Char)
  literal : ∀ word, (∀ c ∈ word, isPattern c = false) → words word = [word]
  ne_nil : ∀ word, words word ≠ []
  slashes : ∀ word, ∀ path ∈ words word, path.count '/' = word.count '/'

/-- `_proto_push_array`: what `cb` makes of each item. -/
def protoPushArray {α : Type} (expand : PathnameExpansion) (val : List Char)
    (cb : List Char → α) : List α :=
  if val = [] then [] else ((shellWords val).flatMap expand.words).map cb

/-- The variables of `_proto_push_ipv4_addr`. -/
structure Ipv4Addr where
  address : List Char
  mask : List Char
  broadcast : List Char
  ptp : List Char
  deriving DecidableEq

/-- `proto_add_ipv4_address`, as the change of `PROTO_IPADDR`. -/
def protoAddIpv4Address (var : List Char) (a : Ipv4Addr) : List Char :=
  shellAppend var (a.address ++ '/' :: (a.mask ++ '/' :: (a.broadcast ++ '/' :: a.ptp)))

/-- `_proto_push_ipv4_addr`, up to the object. -/
def protoPushIpv4Addr (str : List Char) : Ipv4Addr :=
  let address := beforeSlash str
  let str := afterSlash str
  let mask := beforeSlash str
  let str := afterSlash str
  let broadcast := beforeSlash str
  let str := afterSlash str
  { address, mask, broadcast, ptp := str }

/-- The variables of `_proto_push_ipv6_addr`. -/
structure Ipv6Addr where
  address : List Char
  mask : List Char
  preferred : List Char
  valid : List Char
  offlink : List Char
  cls : List Char
  deriving DecidableEq

/-- `proto_add_ipv6_address`, as the change of `PROTO_IP6ADDR`. -/
def protoAddIpv6Address (var : List Char) (a : Ipv6Addr) : List Char :=
  shellAppend var (a.address ++ '/' :: (a.mask ++ '/' :: (a.preferred ++ '/' ::
    (a.valid ++ '/' :: (a.offlink ++ '/' :: a.cls)))))

/-- `_proto_push_ipv6_addr`, up to the object. -/
def protoPushIpv6Addr (str : List Char) : Ipv6Addr :=
  let address := beforeSlash str
  let str := afterSlash str
  let mask := beforeSlash str
  let str := afterSlash str
  let preferred := beforeSlash str
  let str := afterSlash str
  let valid := beforeSlash str
  let str := afterSlash str
  let offlink := beforeSlash str
  let str := afterSlash str
  { address, mask, preferred, valid, offlink, cls := beforeSlash str }

/-- The variables of `_proto_push_route`. -/
structure Route where
  target : List Char
  mask : List Char
  gw : List Char
  metric : List Char
  valid : List Char := []
  table : List Char := []
  source : List Char
  deriving DecidableEq

/-- `proto_add_ipv4_route`, as the change of `PROTO_ROUTE`: it has no lifetime and no table. -/
def protoAddIpv4Route (var target mask gw source metric : List Char) : List Char :=
  shellAppend var (target ++ '/' :: (mask ++ '/' :: (gw ++ '/' :: (metric ++ '/' :: '/' :: '/' ::
    source))))

/-- `proto_add_ipv6_route`, as the change of `PROTO_ROUTE6`. -/
def protoAddIpv6Route (var : List Char) (r : Route) : List Char :=
  shellAppend var (r.target ++ '/' :: (r.mask ++ '/' :: (r.gw ++ '/' :: (r.metric ++ '/' ::
    (r.valid ++ '/' :: (r.table ++ '/' :: r.source))))))

/-- `_proto_push_route`, up to the object. -/
def protoPushRoute (str : List Char) : Route :=
  let target := beforeSlash str
  let str := afterSlash str
  let mask := beforeSlash str
  let str := afterSlash str
  let gw := beforeSlash str
  let str := afterSlash str
  let metric := beforeSlash str
  let str := afterSlash str
  let valid := beforeSlash str
  let str := afterSlash str
  let table := beforeSlash str
  let str := afterSlash str
  { target, mask, gw, metric, valid, table, source := str }

/-- An argument without slashes and blanks. -/
def Field (s : List Char) : Prop := ∀ c ∈ s, c ≠ '/' ∧ isBlank c = false

structure Ipv4Addr.Ok (a : Ipv4Addr) : Prop where
  address : Field a.address
  mask : Field a.mask
  broadcast : Field a.broadcast
  ptp : Field a.ptp

structure Ipv6Addr.Ok (a : Ipv6Addr) : Prop where
  address : Field a.address
  mask : Field a.mask
  preferred : Field a.preferred
  valid : Field a.valid
  offlink : Field a.offlink
  cls : Field a.cls

/-- The source of a route may have slashes. -/
structure Route.Ok (r : Route) : Prop where
  target : Field r.target
  mask : Field r.mask
  gw : Field r.gw
  metric : Field r.metric
  valid : Field r.valid
  table : Field r.table
  source : ∀ c ∈ r.source, isBlank c = false

/-- A route as `proto_add_ipv4_route` can get it. -/
structure Route.Ok4 (r : Route) : Prop extends r.Ok where
  noValid : r.valid = []
  noTable : r.table = []

/-- `proto_add_ipv4_route` with the fields of a route. -/
def addRoute4 (var : List Char) (r : Route) : List Char :=
  protoAddIpv4Route var r.target r.mask r.gw r.source r.metric

variable {a b w : List Char}

theorem Field.slash (h : Field a) : '/' ∉ a := fun hmem => (h _ hmem).1 rfl

theorem Field.count (h : Field a) : a.count '/' = 0 := List.count_eq_zero.mpr h.slash

theorem Field.plain (h : Field a) : ∀ c ∈ a, isBlank c = false := fun c hc => (h c hc).2

theorem beforeSlash_append (h : '/' ∉ a) : beforeSlash (a ++ '/' :: b) = a := by
  have hfront : ∀ c ∈ a, (c != '/') = true := fun c hc =>
    bne_iff_ne.mpr fun heq => h (heq ▸ hc)
  simp [beforeSlash, List.takeWhile_append_of_pos hfront]

theorem afterSlash_append (h : '/' ∉ a) : afterSlash (a ++ '/' :: b) = b := by
  have hfront : ∀ c ∈ a, (c != '/') = true := fun c hc =>
    bne_iff_ne.mpr fun heq => h (heq ▸ hc)
  simp [afterSlash, splitSlash, List.takeWhile_append_of_pos hfront,
    List.dropWhile_append_of_pos hfront]

theorem beforeSlash_of_notMem (h : '/' ∉ a) : beforeSlash a = a :=
  List.takeWhile_eq_self_iff.mpr fun _ hc => bne_iff_ne.mpr fun heq => h (heq ▸ hc)

theorem split_of_mem (h : 0 < w.count '/') : beforeSlash w ++ '/' :: afterSlash w = w ∧
    (afterSlash w).count '/' + 1 = w.count '/' := by
  obtain ⟨a, b, rfl, ha⟩ := List.eq_append_cons_of_mem (List.count_pos_iff.mp h)
  rw [beforeSlash_append ha, afterSlash_append ha]
  refine ⟨rfl, ?_⟩
  rw [List.count_append, List.count_cons_self, List.count_eq_zero.mpr ha, Nat.zero_add]

theorem plain_append (ha : ∀ c ∈ a, isBlank c = false) (hb : ∀ c ∈ b, isBlank c = false) :
    ∀ c ∈ a ++ '/' :: b, isBlank c = false := by
  intro c hc
  rcases List.mem_append.mp hc with hc | hc
  · exact ha c hc
  · rcases List.mem_cons.mp hc with rfl | hc
    · rfl
    · exact hb c hc

/-- Values that are packed into words, and taken apart again. -/
structure Packing (α : Type) where
  pack : α → List Char
  unpack : List Char → α
  Ok : α → Prop
  ne_nil (x : α) : pack x ≠ []
  plain {x : α} : Ok x → ∀ c ∈ pack x, isBlank c = false
  unpack_pack {x : α} : Ok x → unpack (pack x) = x
  pack_unpack {x : α} : Ok x → ∀ w, unpack w = x → w.count '/' = (pack x).count '/' → w = pack x

theorem shellWords_records {α : Type} (P : Packing α) {l : List α} (hl : ∀ x ∈ l, P.Ok x)
    (var : List Char) :
    shellWords (l.foldl (fun var x => shellAppend var (P.pack x)) var) =
      shellWords var ++ l.map P.pack := by
  induction l generalizing var with
  | nil => simp
  | cons x l ih =>
    have hx := hl x List.mem_cons_self
    have hword : [P.pack x].filter (!·.isEmpty) = [P.pack x] := by simp [P.ne_nil]
    rw [List.foldl_cons, ih fun y hy => hl y (List.mem_cons_of_mem x hy),
      shellWords_append var (P.plain hx), hword, List.append_assoc, List.map_cons]
    rfl

theorem length_le_expand (expand : PathnameExpansion) (ws : List (List Char)) :
    ws.length ≤ (ws.flatMap expand.words).length := by
  induction ws with
  | nil => rfl
  | cons w ws ih =>
    have hpos := List.length_pos_iff.mpr (expand.ne_nil w)
    rw [List.flatMap_cons, List.length_append, List.length_cons]
    omega

/-- Each item is what was packed, just if each word expands to itself. -/
theorem expand_records_iff {α : Type} (P : Packing α) (expand : PathnameExpansion) {l : List α}
    (hl : ∀ x ∈ l, P.Ok x) : ((l.map P.pack).flatMap expand.words).map P.unpack = l ↔
      ∀ x ∈ l, expand.words (P.pack x) = [P.pack x] := by
  induction l with
  | nil => simp
  | cons x l ih =>
    have hx := hl x List.mem_cons_self
    have ih := ih fun y hy => hl y (List.mem_cons_of_mem x hy)
    rw [List.map_cons, List.flatMap_cons, List.map_append]
    constructor
    · intro h
      -- a second word from the first record would leave too many for the others
      obtain ⟨p, ps, hps⟩ := List.exists_cons_of_ne_nil (expand.ne_nil (P.pack x))
      have hlength := length_le_expand expand (l.map P.pack)
      rw [hps, List.map_cons, List.cons_append, List.cons.injEq] at h
      obtain ⟨hfirst, hrest⟩ := h
      have hsum := congrArg List.length hrest
      rw [List.length_append, List.length_map, List.length_map] at hsum
      rw [List.length_map] at hlength
      obtain rfl : ps = [] := List.length_eq_zero_iff.mp (by omega)
      have hcount := expand.slashes (P.pack x) p (by rw [hps]; exact List.mem_cons_self)
      have hp := P.pack_unpack hx p hfirst hcount
      intro y hy
      rcases List.mem_cons.mp hy with rfl | hy
      · rw [hps, hp]
      · exact ih.mp hrest y hy
    · intro h
      rw [h x List.mem_cons_self, ih.mpr fun y hy => h y (List.mem_cons_of_mem x hy),
        List.map_singleton, P.unpack_pack hx]
      rfl

theorem push_records_iff {α : Type} (P : Packing α) (expand : PathnameExpansion) {l : List α}
    (hl : ∀ x ∈ l, P.Ok x) :
    protoPushArray expand (l.foldl (fun var x => shellAppend var (P.pack x)) []) P.unpack = l ↔
      ∀ x ∈ l, expand.words (P.pack x) = [P.pack x] := by
  have hwords := shellWords_records P hl []
  rw [shellWords_nil, List.nil_append] at hwords
  rw [← expand_records_iff P expand hl, protoPushArray]
  split_ifs with hval
  · rw [hval, shellWords_nil] at hwords
    rw [← hwords]
    rfl
  · rw [hwords]

theorem shellAppend_nil (value : List Char) : shellAppend [] value = value := rfl

def ipv4Addresses : Packing Ipv4Addr where
  pack := protoAddIpv4Address []
  unpack := protoPushIpv4Addr
  Ok := Ipv4Addr.Ok
  ne_nil a := by simp [protoAddIpv4Address, shellAppend_nil]
  plain h := plain_append h.address.plain (plain_append h.mask.plain
    (plain_append h.broadcast.plain h.ptp.plain))
  unpack_pack h := by
    simp only [protoAddIpv4Address, shellAppend_nil, protoPushIpv4Addr,
      beforeSlash_append h.address.slash, afterSlash_append h.address.slash,
      beforeSlash_append h.mask.slash, afterSlash_append h.mask.slash,
      beforeSlash_append h.broadcast.slash, afterSlash_append h.broadcast.slash]
  pack_unpack h w hw hcount := by
    have hthree : w.count '/' = 3 := by
      simp [hcount, protoAddIpv4Address, shellAppend_nil, h.address.count, h.mask.count,
        h.broadcast.count, h.ptp.count]
    obtain ⟨hw1, hc1⟩ := split_of_mem (w := w) (by omega)
    obtain ⟨hw2, hc2⟩ := split_of_mem (w := afterSlash w) (by omega)
    obtain ⟨hw3, -⟩ := split_of_mem (w := afterSlash (afterSlash w)) (by omega)
    subst hw
    simp only [protoAddIpv4Address, shellAppend_nil, protoPushIpv4Addr, hw3, hw2, hw1]

def ipv6Addresses : Packing Ipv6Addr where
  pack := protoAddIpv6Address []
  unpack := protoPushIpv6Addr
  Ok := Ipv6Addr.Ok
  ne_nil a := by simp [protoAddIpv6Address, shellAppend_nil]
  plain h := plain_append h.address.plain (plain_append h.mask.plain
    (plain_append h.preferred.plain (plain_append h.valid.plain
      (plain_append h.offlink.plain h.cls.plain))))
  unpack_pack h := by
    simp only [protoAddIpv6Address, shellAppend_nil, protoPushIpv6Addr,
      beforeSlash_append h.address.slash, afterSlash_append h.address.slash,
      beforeSlash_append h.mask.slash, afterSlash_append h.mask.slash,
      beforeSlash_append h.preferred.slash, afterSlash_append h.preferred.slash,
      beforeSlash_append h.valid.slash, afterSlash_append h.valid.slash,
      beforeSlash_append h.offlink.slash, afterSlash_append h.offlink.slash,
      beforeSlash_of_notMem h.cls.slash]
  pack_unpack h w hw hcount := by
    have hfive : w.count '/' = 5 := by
      simp [hcount, protoAddIpv6Address, shellAppend_nil, h.address.count, h.mask.count,
        h.preferred.count, h.valid.count, h.offlink.count, h.cls.count]
    obtain ⟨hw1, hc1⟩ := split_of_mem (w := w) (by omega)
    obtain ⟨hw2, hc2⟩ := split_of_mem (w := afterSlash w) (by omega)
    obtain ⟨hw3, hc3⟩ := split_of_mem (w := afterSlash (afterSlash w)) (by omega)
    obtain ⟨hw4, hc4⟩ := split_of_mem (w := afterSlash (afterSlash (afterSlash w))) (by omega)
    obtain ⟨hw5, hc5⟩ :=
      split_of_mem (w := afterSlash (afterSlash (afterSlash (afterSlash w)))) (by omega)
    -- what is behind the last slash is the class as it is
    have hlast := beforeSlash_of_notMem (List.count_eq_zero.mp
      (show (afterSlash (afterSlash (afterSlash (afterSlash (afterSlash w))))).count '/' = 0 by
        omega))
    subst hw
    simp only [protoAddIpv6Address, shellAppend_nil, protoPushIpv6Addr, hlast, hw5, hw4, hw3, hw2,
      hw1]

theorem protoPushRoute_add {r : Route} (h : r.Ok) :
    protoPushRoute (protoAddIpv6Route [] r) = r := by
  simp only [protoAddIpv6Route, shellAppend_nil, protoPushRoute,
    beforeSlash_append h.target.slash, afterSlash_append h.target.slash,
    beforeSlash_append h.mask.slash, afterSlash_append h.mask.slash,
    beforeSlash_append h.gw.slash, afterSlash_append h.gw.slash,
    beforeSlash_append h.metric.slash, afterSlash_append h.metric.slash,
    beforeSlash_append h.valid.slash, afterSlash_append h.valid.slash,
    beforeSlash_append h.table.slash, afterSlash_append h.table.slash]

theorem add_protoPushRoute (h : 6 ≤ w.count '/') : protoAddIpv6Route [] (protoPushRoute w) = w := by
  obtain ⟨hw1, hc1⟩ := split_of_mem (w := w) (by omega)
  obtain ⟨hw2, hc2⟩ := split_of_mem (w := afterSlash w) (by omega)
  obtain ⟨hw3, hc3⟩ := split_of_mem (w := afterSlash (afterSlash w)) (by omega)
  obtain ⟨hw4, hc4⟩ := split_of_mem (w := afterSlash (afterSlash (afterSlash w))) (by omega)
  obtain ⟨hw5, hc5⟩ :=
    split_of_mem (w := afterSlash (afterSlash (afterSlash (afterSlash w)))) (by omega)
  obtain ⟨hw6, -⟩ :=
    split_of_mem (w := afterSlash (afterSlash (afterSlash (afterSlash (afterSlash w))))) (by omega)
  simp only [protoAddIpv6Route, shellAppend_nil, protoPushRoute, hw6, hw5, hw4, hw3, hw2, hw1]

theorem le_count_route (r : Route) : 6 ≤ (protoAddIpv6Route [] r).count '/' := by
  simp only [protoAddIpv6Route, shellAppend_nil, List.count_append, List.count_cons_self]
  omega

theorem addRoute4_eq {r : Route} (h : r.Ok4) : addRoute4 [] r = protoAddIpv6Route [] r := by
  simp [addRoute4, protoAddIpv4Route, protoAddIpv6Route, h.noValid, h.noTable]

def ipv6Routes : Packing Route where
  pack := protoAddIpv6Route []
  unpack := protoPushRoute
  Ok := Route.Ok
  ne_nil r := by simp [protoAddIpv6Route, shellAppend_nil]
  plain h := plain_append h.target.plain (plain_append h.mask.plain (plain_append h.gw.plain
    (plain_append h.metric.plain (plain_append h.valid.plain
      (plain_append h.table.plain h.source)))))
  unpack_pack := protoPushRoute_add
  pack_unpack h w hw hcount := by
    rw [← hw, add_protoPushRoute (hcount ▸ le_count_route _)]

def ipv4Routes : Packing Route where
  pack := addRoute4 []
  unpack := protoPushRoute
  Ok := Route.Ok4
  ne_nil r := by simp [addRoute4, protoAddIpv4Route, shellAppend_nil]
  plain h := by
    rw [addRoute4_eq h]
    exact ipv6Routes.plain h.toOk
  unpack_pack h := by
    rw [addRoute4_eq h]
    exact protoPushRoute_add h.toOk
  pack_unpack h w hw hcount := by
    rw [addRoute4_eq h] at hcount ⊢
    exact ipv6Routes.pack_unpack h.toOk w hw hcount

/-- The calls of a script with the values of a list, and what comes of them. -/
def Recovered {α : Type} (expand : PathnameExpansion) (add : List Char → α → List Char)
    (push : List Char → α) (l : List α) : Prop :=
  protoPushArray expand (l.foldl add []) push = l

/-- The shell leaves each record as it is when it looks for files of that name. -/
def LeftAlone {α : Type} (expand : PathnameExpansion) (add : List Char → α → List Char)
    (l : List α) : Prop :=
  ∀ x ∈ l, expand.words (add [] x) = [add [] x]

/-- The values of a variable are recovered in their order just if their records are left alone. -/
theorem records_recovered_iff (expand : PathnameExpansion)
    (addrs : {l : List Ipv4Addr // ∀ a ∈ l, a.Ok}) (addrs6 : {l : List Ipv6Addr // ∀ a ∈ l, a.Ok})
    (routes : {l : List Route // ∀ r ∈ l, r.Ok4}) (routes6 : {l : List Route // ∀ r ∈ l, r.Ok}) :
    (Recovered expand protoAddIpv4Address protoPushIpv4Addr addrs ↔
      LeftAlone expand protoAddIpv4Address addrs.1) ∧
    (Recovered expand protoAddIpv6Address protoPushIpv6Addr addrs6 ↔
      LeftAlone expand protoAddIpv6Address addrs6.1) ∧
    (Recovered expand addRoute4 protoPushRoute routes ↔ LeftAlone expand addRoute4 routes.1) ∧
    (Recovered expand protoAddIpv6Route protoPushRoute routes6 ↔
      LeftAlone expand protoAddIpv6Route routes6.1) :=
  ⟨push_records_iff ipv4Addresses expand addrs.2, push_records_iff ipv6Addresses expand addrs6.2,
    push_records_iff ipv4Routes expand routes.2, push_records_iff ipv6Routes expand routes6.2⟩

theorem leftAlone_of_literal {α : Type} (expand : PathnameExpansion)
    (add : List Char → α → List Char) {l : List α}
    (h : ∀ x ∈ l, ∀ c ∈ add [] x, isPattern c = false) : LeftAlone expand add l :=
  fun x hx => expand.literal _ (h x hx)

/-- The directory of the protocol scripts, as far as `../*//` goes. -/
def protoDirectory : PathnameExpansion where
  words word :=
    if word = "../*//".toList then ["../proto//".toList, "../wireless//".toList] else [word]
  literal word h := by
    refine if_neg ?_
    rintro rfl
    exact absurd (h '*' (by decide)) (by decide)
  ne_nil word := by split_ifs <;> simp
  slashes word path hpath := by
    split_ifs at hpath with hword
    · subst hword
      simp only [List.mem_cons, List.not_mem_nil, or_false] at hpath
      rcases hpath with rfl | rfl <;> rfl
    · rw [List.mem_singleton.mp hpath]

/-- The address `..` with the netmask `*`. -/
def starred : Ipv4Addr where
  address := "..".toList
  mask := "*".toList
  broadcast := []
  ptp := []

theorem starred_ok : ∀ a ∈ [starred], a.Ok := by
  intro a ha
  rw [List.mem_singleton.mp ha]
  constructor <;> simp [Field, starred, isBlank]

/-- One address comes back as two, which are names of directories. -/
theorem address_expanded : ¬∀ (expand : PathnameExpansion)
    (addrs : {l : List Ipv4Addr // ∀ a ∈ l, a.Ok}),
      Recovered expand protoAddIpv4Address protoPushIpv4Addr addrs := by
  intro hrecovered
  have htwo : protoPushArray protoDirectory ([starred].foldl protoAddIpv4Address [])
      protoPushIpv4Addr = [starred] := hrecovered protoDirectory ⟨[starred], starred_ok⟩
  revert htwo
  decide

end Netifd.ProtoRecords
