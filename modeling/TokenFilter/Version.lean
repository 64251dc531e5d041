set_option autoImplicit false

namespace TokenFilter

def version : String := "0.1.0"

end TokenFilter
