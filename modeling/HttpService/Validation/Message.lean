import HttpService.Locale
import HttpService.Text.Split
import HttpService.Json.Basic

/-!
# Validation messages

A failed rule becomes a sentence: the template of its rule, of what was measured and of the language,
with the field, the parameter and the rule put in.
-/

set_option autoImplicit false

namespace HttpService.Validation

/-- What a rule measured. -/
inductive Kind
  | string | number | items | other
  deriving DecidableEq, Repr

/-- What a rule measures of a value. -/
def Kind.of : Json → Kind
  | .str _ => .string
  | .num _ => .number
  | .arr _ => .items
  | .obj _ => .items
  | _ => .other

/-- A failed rule of a field. -/
structure RuleFailure where
  field : String
  rule : String
  param : String
  kind : Kind
  deriving DecidableEq, Repr

/-- The template in English; a count of one has a form of its own. -/
def english (e : RuleFailure) : String :=
  let one := e.param = "1"
  let many (s : String) : String := if one then s else s ++ "s"
  let f := "\x7b0\x7d"
  let p := "\x7b1\x7d"
  match e.rule, e.kind with
  | "required", _ => f ++ " is a required field"
  | "email", _ => f ++ " must be a valid email address"
  | "url", _ => f ++ " must be a valid URL"
  | "numeric", _ => f ++ " must be a valid numeric value"
  | "alpha", _ => f ++ " can only contain alphabetic characters"
  | "alphanum", _ => f ++ " can only contain alphanumeric characters"
  | "oneof", _ => f ++ " must be one of [" ++ p ++ "]"
  | "min", k | "gte", k =>
    match k with
    | .string => f ++ " must be at least " ++ p ++ many " character" ++ " in length"
    | .items => f ++ " must contain at least " ++ p ++ many " item"
    | _ => f ++ " must be " ++ p ++ " or greater"
  | "max", k | "lte", k =>
    match k with
    | .string => f ++ " must be a maximum of " ++ p ++ many " character" ++ " in length"
    | .items => f ++ " must contain at maximum " ++ p ++ many " item"
    | _ => f ++ " must be " ++ p ++ " or less"
  | "len", .string => f ++ " must be " ++ p ++ many " character" ++ " in length"
  | "len", .items => f ++ " must contain " ++ p ++ many " item"
  | "len", _ => f ++ " must be equal to " ++ p
  | "gt", .string => f ++ " must be greater than " ++ p ++ " characters in length"
  | "gt", .items => f ++ " must contain more than " ++ p ++ " items"
  | "gt", _ => f ++ " must be greater than " ++ p
  | "lt", .string => f ++ " must be less than " ++ p ++ " characters in length"
  | "lt", .items => f ++ " must contain less than " ++ p ++ " items"
  | "lt", _ => f ++ " must be less than " ++ p
  | _, _ => f ++ " failed on the '\x7brule\x7d' rule"

/-- The template in Chinese. -/
def chinese (e : RuleFailure) : String :=
  let f := "\x7b0\x7d"
  let p := "\x7b1\x7d"
  match e.rule, e.kind with
  | "required", _ => f ++ "为必填字段"
  | "email", _ => f ++ "必须是一个有效的邮箱"
  | "url", _ => f ++ "必须是一个有效的URL"
  | "numeric", _ => f ++ "必须是一个有效的数值"
  | "alpha", _ => f ++ "只能包含字母"
  | "alphanum", _ => f ++ "只能包含字母和数字"
  | "oneof", _ => f ++ "必须是[" ++ p ++ "]中的一个"
  | "min", .string | "gte", .string => f ++ "长度必须至少为" ++ p ++ "个字符"
  | "min", .items | "gte", .items => f ++ "必须至少包含" ++ p ++ "项"
  | "min", _ => f ++ "最小只能为" ++ p
  | "gte", _ => f ++ "必须大于或等于" ++ p
  | "max", .string | "lte", .string => f ++ "长度不能超过" ++ p ++ "个字符"
  | "max", .items | "lte", .items => f ++ "最多只能包含" ++ p ++ "项"
  | "max", _ | "lte", _ => f ++ "必须小于或等于" ++ p
  | "len", .string => f ++ "长度必须是" ++ p ++ "个字符"
  | "len", .items => f ++ "必须包含" ++ p ++ "项"
  | "len", _ => f ++ "必须等于" ++ p
  | "gt", .string => f ++ "长度必须大于" ++ p ++ "个字符"
  | "gt", .items => f ++ "必须大于" ++ p ++ "项"
  | "gt", _ => f ++ "必须大于" ++ p
  | "lt", .string => f ++ "长度必须小于" ++ p ++ "个字符"
  | "lt", .items => f ++ "必须包含少于" ++ p ++ "项"
  | "lt", _ => f ++ "必须小于" ++ p
  | _, _ => f ++ "未通过\x7brule\x7d校验"

/-- The sentence about a failure: the field is put in first, then the parameter, then the rule, each
also where an earlier one brought its place along. -/
def RuleFailure.sentence (e : RuleFailure) (l : Locale) : String :=
  let template := match l with
    | .en => english e
    | .zh => chinese e
  let t := Text.replace template "\x7b0\x7d" e.field
  let t := Text.replace t "\x7b1\x7d" e.param
  Text.replace t "\x7brule\x7d" e.rule

end HttpService.Validation
