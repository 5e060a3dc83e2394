import Vzctl.Kubernetes.ObjectValue

/-!
# Managed fields

`kubernetes/managed_fields.rs`: merging, intersecting and subtracting field
sets.
-/

namespace Vzctl

namespace ManagedFields

open JSONValue KeyedList

abbrev Fields := List (String × JSONValue)

def noFields : JSONValue := .object []

mutual

def mergeFields : JSONValue → JSONValue → Except String JSONValue
  | .object target, .object source =>
      (mergeLoop target source).map JSONValue.object
  | _, _ => .error "invalid managed field set"

def mergeLoop (target : Fields) : Fields → Except String Fields
  | [] => .ok target
  | (key, value) :: rest =>
      match target.lookup key with
      | some current =>
          if current.isEmpty? ≠ value.isEmpty? then
            .error "incompatible atomic/structured managed field ownership"
          else do
            let merged ← mergeFields current value
            mergeLoop (insertKey key merged target) rest
      | none => mergeLoop (insertKey key value target) rest

end

mutual

def fieldIntersection : JSONValue → JSONValue → Except String JSONValue
  | .object left, .object right =>
      (intersectionLoop right left []).map JSONValue.object
  | _, _ => .error "invalid field intersection"

def intersectionLoop (right : Fields) : Fields → Fields →
    Except String Fields
  | [], result => .ok result
  | (key, child) :: rest, result =>
      match right.lookup key with
      | none => intersectionLoop right rest result
      | some other =>
          match child.isEmpty?, other.isEmpty? with
          | some empty, some otherEmpty =>
              if empty ≠ otherEmpty then
                .error "incompatible atomic/structured field intersection"
              else do
                let value ← fieldIntersection child other
                if empty || value.isEmpty? = some false then
                  intersectionLoop right rest (insertKey key value result)
                else
                  intersectionLoop right rest result
          | _, _ => .error "invalid field intersection child"

end

mutual

def fieldDifference : JSONValue → JSONValue → Except String JSONValue
  | .object fields, .object removed =>
      (differenceLoop fields removed).map JSONValue.object
  | _, _ => .error "invalid field difference"

def differenceLoop (result : Fields) : Fields → Except String Fields
  | [] => .ok result
  | (key, child) :: rest =>
      match result.lookup key with
      | none => differenceLoop result rest
      | some current =>
          match child.isEmpty?, current.isEmpty? with
          | some empty, some currentEmpty =>
              if empty ≠ currentEmpty then
                .error "incompatible atomic/structured field difference"
              else do
                let value ← fieldDifference current child
                if value.isEmpty? = some true then
                  differenceLoop (eraseKey key result) rest
                else
                  differenceLoop (insertKey key value result) rest
          | _, _ => .error "invalid field difference child"

end

end ManagedFields

end Vzctl
