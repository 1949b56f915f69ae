import BgpLinkState.Python

/-! The classes of `LinkState.registered_tlvs`. Each decoder module registers its classes
with the `@LinkState.register()` decorator under their `TYPE`; a container looks a
sub-TLV's type up there and calls `cls.unpack(value).dict()`. The registry is a
parameter of every decode, and a class of another module is given by what its `unpack`
computes. -/

namespace BgpLinkState.LinkState
open Python

/-- A class a registry can hold: the eight of the node and link modules, or a class of
another module with its `TYPE`, its `TYPE_STR` and what its `unpack` returns as the TLV's
value. -/
inductive TlvClass where
  | multiTopologyIdentifier
  | flexAlgorithmDefine
  | flexAlgoExcludeAdminGroup
  | flexAlgoIncludeAnyAdminGroup
  | flexAlgoIncludeAllAdminGroup
  | flexAlgoDefinitionFlags
  | flexAlgoExcludeSRLG
  | appSpecLinkAttr
  | other (type : Nat) (typeStr : String) (unpack : Bytes → Except PyError PyValue)

/-- The class attribute `TYPE`. -/
def TlvClass.TYPE : TlvClass → Nat
  | .multiTopologyIdentifier => 263
  | .flexAlgorithmDefine => 1039
  | .flexAlgoExcludeAdminGroup => 1040
  | .flexAlgoIncludeAnyAdminGroup => 1041
  | .flexAlgoIncludeAllAdminGroup => 1042
  | .flexAlgoDefinitionFlags => 1043
  | .flexAlgoExcludeSRLG => 1044
  | .appSpecLinkAttr => 1122
  | .other type _ _ => type

/-- The class attribute `TYPE_STR`, the name `dict()` tags the value with. -/
def TlvClass.TYPE_STR : TlvClass → String
  | .multiTopologyIdentifier => "mt_id"
  | .flexAlgorithmDefine => "flex_algo_defn"
  | .flexAlgoExcludeAdminGroup => "flex_algo_excl_admin_group"
  | .flexAlgoIncludeAnyAdminGroup => "flex_algo_incl_any_admin_group"
  | .flexAlgoIncludeAllAdminGroup => "flex_algo_incl_all_admin_group"
  | .flexAlgoDefinitionFlags => "flex_algo_defn_flags"
  | .flexAlgoExcludeSRLG => "flex_algo_excl_srlg"
  | .appSpecLinkAttr => "ASLA"
  | .other _ typeStr _ => typeStr

/-- `LinkState.registered_tlvs`: the class registered under each type code. -/
abbrev Registry := Nat → Option TlvClass

/-- Modelled from the spec: `LinkState.register()` (`linkstate.py` is not among the
sources) inserts a class under its `TYPE`; a later registration of a code replaces the
earlier one. -/
def register (cls : TlvClass) (reg : Registry) : Registry :=
  fun type => if type = cls.TYPE then some cls else reg type

/-- The classes the node and link modules register, in the order they load. -/
def linkStateClasses : List TlvClass :=
  [.appSpecLinkAttr, .flexAlgorithmDefine, .flexAlgoExcludeAdminGroup,
    .flexAlgoIncludeAnyAdminGroup, .flexAlgoIncludeAllAdminGroup, .flexAlgoDefinitionFlags,
    .flexAlgoExcludeSRLG, .multiTopologyIdentifier]

/-- `LinkState.registered_tlvs` once these modules are loaded over the registrations in
`base`. -/
def registeredTlvs (base : Registry) : Registry :=
  linkStateClasses.foldl (fun reg cls => register cls reg) base

/-- After loading, each of the eight classes is found under its `TYPE`, whatever `base`
held: in particular the two containers, which then decode nested containers. -/
theorem registeredTlvs_TYPE (base : Registry) {cls : TlvClass} (member : cls ∈ linkStateClasses) :
    registeredTlvs base cls.TYPE = some cls := by
  simp only [linkStateClasses, List.mem_cons, List.mem_singleton, List.not_mem_nil,
    or_false] at member
  rcases member with rfl | rfl | rfl | rfl | rfl | rfl | rfl | rfl <;> rfl

end BgpLinkState.LinkState
