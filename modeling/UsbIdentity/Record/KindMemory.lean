import UsbIdentity.Record.Ingest

namespace UsbIdentity

structure KindMemory where
  holds : Kind → Bool := fun _ => false
  forgotten : List Kind := []

namespace KindMemory

def ofList (kinds : List Kind) : KindMemory where
  holds kind := kinds.contains kind

def add (memory : KindMemory) (kind : Kind) : KindMemory :=
  { memory with holds := fun other => other == kind || memory.holds other }

def toList (memory : KindMemory) : List Kind :=
  Kind.all.filter memory.holds

instance : Oracle KindMemory where
  has memory := memory.holds
  forget memory kind :=
    { holds := fun other => other != kind && memory.holds other
      forgotten := memory.forgotten ++ [kind] }

@[simp]
theorem has_add (memory : KindMemory) (added kind : Kind) :
    Oracle.has (memory.add added) kind = (kind == added || Oracle.has memory kind) := rfl

@[simp]
theorem has_forget (memory : KindMemory) (forgotten kind : Kind) :
    Oracle.has (Oracle.forget memory forgotten) kind =
      (kind != forgotten && Oracle.has memory kind) := rfl

@[simp]
theorem forgotten_forget (memory : KindMemory) (kind : Kind) :
    (Oracle.forget memory kind).forgotten = memory.forgotten ++ [kind] := rfl

end KindMemory

end UsbIdentity
