/-! Texts in the order of their code points. -/
namespace StepFlow.Text

def sorted (ss : List String) : List String := ss.mergeSort fun a b => !decide (b < a)

end StepFlow.Text
