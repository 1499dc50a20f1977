import BusBridge.Bus

/-!
# The interface of an e-reader

A representative part of what the remote object `NickelDBus` publishes.  The
methods `mwcToast` and `dlgConfirmCreate` come twice, with and without the
arguments that may be left out.
-/

namespace BusBridge

namespace Interface

def given (type name : String) : Parameter :=
  ⟨some name, .input, type⟩

/-- A parameter that the remote object gives. -/
def returned (type : String) (name : Option String) : Parameter :=
  ⟨name, .output, type⟩

/-- A part of the interface `com.github.shermp.nickeldbus`. -/
def nickel : Interface :=
  ⟨Target.nickel.interface,
    [⟨"ndbVersion", [returned "s" none]⟩,
      ⟨"miscSignalConnected", [given "s" "signalName", returned "b" none]⟩,
      ⟨"mwcToast", [given "i" "toastDuration", given "s" "msgMain", given "s" "msgSub"]⟩,
      ⟨"mwcToast", [given "i" "toastDuration", given "s" "msgMain"]⟩,
      ⟨"dlgConfirmCreate", [given "b" "createLineEdit"]⟩,
      ⟨"dlgConfirmCreate", []⟩,
      ⟨"pfmRescanBooks", []⟩,
      ⟨"wfmSetAirplaneMode", [given "s" "action"]⟩],
    [⟨"dlgConfirmResult", [returned "i" (some "result")]⟩,
      ⟨"pfmDoneProcessing", []⟩,
      ⟨"wmNetworkConnected", []⟩,
      ⟨"wmScanningFinished", []⟩,
      ⟨"rvPageChanged", [returned "i" (some "pageNum")]⟩]⟩

end Interface

end BusBridge
