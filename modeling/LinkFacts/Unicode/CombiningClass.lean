import LinkFacts.Unicode.Table

/-!
# Canonical combining classes

The order in which marks follow their base character.
-/

namespace LinkFacts
namespace Unicode

/-- Runs of class zero, `Z`, and runs whose payload is their class, `K`. -/
def combiningLines : List String :=
  ["300Z15,e6K1,e8K4,dcK1,e8K1,d8K5,dcK2,caK4,dcK2,caKb,dcK5,1K4,dcK8,e6K1,f0K1,e6K3,dcK3,e6K2,d",
    "cK1Z3,e6K4,dcK1,e6K1,e8K2,dcK1,e6K1,e9K2,eaK1,e9K2,eaK1,e9Kd,e6K113Z5,e6K109Z1,dcK4,e6K1,dcK",
    "3,e6K1,deK1,dcK6,e6K6,dcK2,e6K1,dcK2,e6K1,deK1,e4K1,e6K1,aK1,bK1,cK1,dK1,eK1,fK1,10K1,11K1,1",
    "2K2,13K1,14K1,15K1,16K1Z1,17K1Z1,18K1,19K1Z1,e6K1,dcK1Z1,12K48Z8,e6K1,1eK1,1fK1,20K30Z1,1bK1",
    ",1cK1,1dK1,1eK1,1fK1,20K1,21K1,22K2,e6K2,dcK5,e6K1,dcK2,e6K1,dcK10Z1,23K65Z7,e6K2Z4,e6K1,dcK",
    "1,e6K2Z2,e6K1Z1,dcK2,e6K1,dcK23Z1,24K1eZ1,e6K1,dcK2,e6K1,dcK2,e6K3,dcK1,e6K2,dcK1,e6K1,dcK3,",
    "e6K1,dcK1,e6K1,dcK1,e6K1,dcK1,e6K1,dcK2,e6Ka0Z7,e6K1,dcK1,e6K9Z1,dcK18Z4,e6K1Z9,e6K1Z3,e6K1Z",
    "5,e6K2bZ3,dcK3cZ1,e6K3,dcK4,e6K2aZ5,e6K5,dcKe,e6K1Z1,dcK2,e6K1,dcK2,e6K1,dcK3,e6K3,dcK1,1bK1",
    ",1cK1,1dK3,e6K1,dcK2,e6K2,dcK5,e6K3cZ1,7K10Z1,9K3Z1,e6K1,dcK2,e6K67Z1,7K10Z1,9K30Z1,e6K3dZ1,",
    "7K10Z1,9K6eZ1,7K10Z1,9K6eZ1,7K10Z1,9K7fZ1,9K6eZ1,7K10Z1,9K7Z1,54K1,5bK65Z1,7K10Z1,9K6dZ2,9K1",
    "0Z1,9K7cZ1,9K6dZ2,67K1,9KdZ4,6bK6cZ2,76K1,9KdZ4,7aK4cZ2,dcK1bZ1,dcK1Z1,dcK1Z1,d8K37Z1,81K1,8",
    "2K1Z1,84K5Z4,82K2Z1,82K1Z2,e6K1,9K1Z2,e6K3eZ1,dcK70Z1,7K1Z2,9K52Z1,dcK2cfZ3,e6K3b4Z2,9K1eZ1,",
    "9K9dZ1,9KaZ1,e6KcbZ1,e4K8fZ1,deK1,e6K1,dcKdbZ1,e6K1,dcK47Z1,9K14Z8,e6K2Z1,dcK30Z5,e6K6,dcK2,",
    "e6K1,dcK1Z2,dcK2,e6K2,dcK5,e6K1,dcK4,e6K65Z1,7KfZ1,9K26Z1,e6K1,dcK7,e6K36Z2,9K3aZ1,7KbZ2,9K4",
    "3Z1,7K98Z3,e6K1Z1,1K5,dcK2,e6K4,dcK1,e6K1Z7,1K4Z1,dcK6Z1,e6K3Z2,e6Kc6Z2,e6K1,dcK7,e6K1,dcK2,",
    "e6K1,eaK1,d6K1,dcK1,caK25,e6K1,e8K2,e4K1,dcK1,daK1,e6K1,e9K1,dcK1,e6K1,dcK2d0Z2,e6K2,1K4,e6K",
    "3,1K2,e6K4Z1,e6K3Z2,1K1,e6K1,dcK1,e6K2,1K4,dcK1,e6KbfeZ3,e6K8dZ1,9K60Z20,e6K22aZ1,daK1,e4K1,",
    "e8K1,deK2,e0K69Z2,8K75d4Z1,e6K4Za,e6K20Z2,e6K50Z2,e6K114Z1,9K25Z1,9K97Z1,9K1bZ12,e6K39Z3,dcK",
    "25Z1,9K5fZ1,7KcZ1,9KefZ1,e6K1Z2,e6K1,dcK2Z2,e6K5Z2,e6K1Z1,e6K34Z1,9Kf6Z1,9K4f30Z1,1aK301Z7,e",
    "6K7,dcK2,e6K3cdZ1,dcKe2Z1,dcK95Z5,e6K692Z1,dcK1Z1,e6K28Z1,e6K1,1K1,dcK4Z1,9Ka5Z1,e6K1,dcK23d",
    "Z4,e6K183Z2,e6K50Z3,dcK46Z2,dcK3,e6K1,dcK1,e6K4,dcK31Z1,e6K1,dcK1,e6K1,dcKc0Z1,9K29Z1,9KeZ1,",
    "9K39Z1,9K1,7K45Z3,e6K30Z2,9K3eZ1,7K4cZ1,9K9Z1,7K6aZ1,9K1,7Kb2Z1,7K1,9K50Z2,7K10Z1,9K18Z7,e6K",
    "3Z5,e6KcdZ1,9K3Z1,7K17Z1,e6K63Z1,9K1,7KfbZ1,9K1,7K7eZ1,9K76Z1,9K1,7K73Z1,9K10dZ1,9K1,7K102Z2",
    ",9K4Z1,7K9cZ1,9K53Z1,9K12Z1,9K51Z1,9K1a5Z1,9K102Z1,7K1Z2,9K51Z1,9K1a9Z2,9K4badZ5,1K3bZ7,e6K4",
    "b9Z2,6K4cacZ1,1K14c6Z2,d8K3,1K3Z1,e2K5,d8K8Z8,dcK2Z5,e6K2,dcK1eZ4,e6K94Z3,e6KdbbZ7,e6K1Z11,e",
    "6K2Z7,e6K1Z2,e6K1Z5,e6K64Z1,e6Ka0Z7,e6K177Z1,e6K3dZ4,e6K1fcZ2,e8K1,dcK1,e6K3e0Z7,dcK6dZ6,e6K",
    "1,7Kf16b5Z"]

/-- The combining class of every code point. -/
def combiningTable : Table := Table.ofLines combiningLines

/-- The canonical combining class of a character. -/
def combiningClass (c : Char) : Nat :=
  match combiningTable.find? c.toNat with
  | some ⟨_, _, [value]⟩ => value
  | _ => 0

/-- The combining class of a virama. -/
def viramaClass : Nat := 9

end Unicode
end LinkFacts
