import ModalHighlight.Text.CharName

/-!
The names of the characters up to U+FFFF in Unicode 14, run by run.
-/

namespace ModalHighlight.Text

/-- The listed names of the characters up to U+FFFF. -/
def NameRun.basicPlane : List NameRun := [
  ⟨0x20, ["SPACEfEXCLAMATION MARKqQUOTATION MARKoNUMBER SIGNlDOLLAR SIGNlPERCENT SIGNmAMPERSANDiPO",
     "STROPHEkLEFT PARENTHESISqRIGHT PARENTHESISrASTERISKiPLUS SIGNjCOMMAfHYPHEN-MINUSmFULL STOPjS",
     "OLIDUShDIGIT ZEROeONEdTWOcHREEfFOURdIVEeSIXcEVENfEIGHTfNINEkCOLONfSEMICOLONjLESS-THAN SIGNoE",
     "QUALS SIGNlGREATER-THAN SIGNrQUESTION MARKnCOMMERCIAL ATnLATIN CAPITAL LETTER AbBbCbDbEbFbGb",
     "HbIbJbKbLbMbNbObPbQbRbSbTbUbVbWbXbYbZvEFT SQUARE BRACKETtREVERSE SOLIDUSoIGHT SQUARE BRACKET",
     "uCIRCUMFLEX ACCENTrLOW LINEiGRAVE ACCENTmLATIN SMALL LETTER AbBbCbDbEbFbGbHbIbJbKbLbMbNbObPb",
     "QbRbSbTbUbVbWbXbYbZtEFT CURLY BRACKETsVERTICAL LINEnRIGHT CURLY BRACKETtTILDE"]⟩,
  ⟨0xA0, ["NO-BREAK SPACEoINVERTED EXCLAMATION MARKzCENT SIGNjPOUND SIGNkCURRENCY SIGNnYEN SIGNiBR",
     "OKEN BARkSECTION SIGNmDIAERESISjCOPYRIGHT SIGNoFEMININE ORDINAL INDICATORzbLEFT-POINTING DOU",
     "BLE ANGLE QUOTATION MARKzqNOT SIGNiSOFT HYPHENlREGISTERED SIGNpMACRONgDEGREE SIGNlPLUS-MINUS",
     " SIGNpSUPERSCRIPT TWOcHREErACUTE ACCENTmMICRO SIGNkPILCROW SIGNmMIDDLE DOTkCEDILLAhSUPERSCRI",
     "PT ONEpMASCULINE ORDINAL INDICATORzcRIGHT-POINTING DOUBLE ANGLE QUOTATION MARKzrVULGAR FRACT",
     "ION ONE QUARTERhHALFiTHREE QUARTERSzfINVERTED QUESTION MARKwLATIN CAPITAL LETTER A WITH GRAV",
     "EfACUTEfCIRCUMFLEXkTILDEfDIAERESISjRING ABOVEqEcC WITH CEDILLAoE WITH GRAVEfACUTEfCIRCUMFLEX",
     "kDIAERESISqI WITH GRAVEfACUTEfCIRCUMFLEXkDIAERESISqETHdN WITH TILDEmO WITH GRAVEfACUTEfCIRCU",
     "MFLEXkTILDEfDIAERESISzmMULTIPLICATION SIGNtLATIN CAPITAL LETTER O WITH STROKEnU WITH GRAVEfA",
     "CUTEfCIRCUMFLEXkDIAERESISqY WITH ACUTEmTHORNuSMALL LETTER SHARP ShA WITH GRAVEfACUTEfCIRCUMF",
     "LEXkTILDEfDIAERESISjRING ABOVEqEcC WITH CEDILLAoE WITH GRAVEfACUTEfCIRCUMFLEXkDIAERESISqI WI",
     "TH GRAVEfACUTEfCIRCUMFLEXkDIAERESISqETHdN WITH TILDEmO WITH GRAVEfACUTEfCIRCUMFLEXkTILDEfDIA",
     "ERESISzkDIVISION SIGNnLATIN SMALL LETTER O WITH STROKEnU WITH GRAVEfACUTEfCIRCUMFLEXkDIAERES",
     "ISqY WITH ACUTEmTHORNfY WITH DIAERESISzeCAPITAL LETTER A WITH MACRONzdSMALL LETTER A WITH MA",
     "CRONzbCAPITAL LETTER A WITH BREVEzcSMALL LETTER A WITH BREVEzCAPITAL LETTER A WITH OGONEKzdS",
     "MALL LETTER A WITH OGONEKzbCAPITAL LETTER C WITH ACUTEzcSMALL LETTER C WITH ACUTEzCAPITAL LE",
     "TTER C WITH CIRCUMFLEXzhSMALL LETTER C WITH CIRCUMFLEXzfCAPITAL LETTER C WITH DOT ABOVEzgSMA",
     "LL LETTER C WITH DOT ABOVEzeCAPITAL LETTER C WITH CARONzcSMALL LETTER C WITH CARONzCAPITAL L",
     "ETTER D WITH CARONzcSMALL LETTER D WITH CARONzCAPITAL LETTER D WITH STROKEzdSMALL LETTER D W",
     "ITH STROKEzbCAPITAL LETTER E WITH MACRONzdSMALL LETTER E WITH MACRONzbCAPITAL LETTER E WITH ",
     "BREVEzcSMALL LETTER E WITH BREVEzCAPITAL LETTER E WITH DOT ABOVEzgSMALL LETTER E WITH DOT AB",
     "OVEzeCAPITAL LETTER E WITH OGONEKzdSMALL LETTER E WITH OGONEKzbCAPITAL LETTER E WITH CARONzc",
     "SMALL LETTER E WITH CARONzCAPITAL LETTER G WITH CIRCUMFLEXzhSMALL LETTER G WITH CIRCUMFLEXzf",
     "CAPITAL LETTER G WITH BREVEzcSMALL LETTER G WITH BREVEzCAPITAL LETTER G WITH DOT ABOVEzgSMAL",
     "L LETTER G WITH DOT ABOVEzeCAPITAL LETTER G WITH CEDILLAzeSMALL LETTER G WITH CEDILLAzcCAPIT",
     "AL LETTER H WITH CIRCUMFLEXzhSMALL LETTER H WITH CIRCUMFLEXzfCAPITAL LETTER H WITH STROKEzdS",
     "MALL LETTER H WITH STROKEzbCAPITAL LETTER I WITH TILDEzcSMALL LETTER I WITH TILDEzCAPITAL LE",
     "TTER I WITH MACRONzdSMALL LETTER I WITH MACRONzbCAPITAL LETTER I WITH BREVEzcSMALL LETTER I ",
     "WITH BREVEzCAPITAL LETTER I WITH OGONEKzdSMALL LETTER I WITH OGONEKzbCAPITAL LETTER I WITH D",
     "OT ABOVEzgSMALL LETTER DOTLESS IwCAPITAL LIGATURE IJtSMALL LIGATURE IJrCAPITAL LETTER J WITH",
     " CIRCUMFLEXzhSMALL LETTER J WITH CIRCUMFLEXzfCAPITAL LETTER K WITH CEDILLAzeSMALL LETTER K W",
     "ITH CEDILLAnRAqCAPITAL LETTER L WITH ACUTEzcSMALL LETTER L WITH ACUTEzCAPITAL LETTER L WITH ",
     "CEDILLAzeSMALL LETTER L WITH CEDILLAzcCAPITAL LETTER L WITH CARONzcSMALL LETTER L WITH CARON",
     "zCAPITAL LETTER L WITH MIDDLE DOTzhSMALL LETTER L WITH MIDDLE DOTzfCAPITAL LETTER L WITH STR",
     "OKEzdSMALL LETTER L WITH STROKEzbCAPITAL LETTER N WITH ACUTEzcSMALL LETTER N WITH ACUTEzCAPI",
     "TAL LETTER N WITH CEDILLAzeSMALL LETTER N WITH CEDILLAzcCAPITAL LETTER N WITH CARONzcSMALL L",
     "ETTER N WITH CARONkPRECEDED BY APOSTROPHEzmCAPITAL LETTER ENGsSMALL LETTER ENGqCAPITAL LETTE",
     "R O WITH MACRONzdSMALL LETTER O WITH MACRONzbCAPITAL LETTER O WITH BREVEzcSMALL LETTER O WIT",
     "H BREVEzCAPITAL LETTER O WITH DOUBLE ACUTEzjSMALL LETTER O WITH DOUBLE ACUTEzhCAPITAL LIGATU",
     "RE OEtSMALL LIGATURE OErCAPITAL LETTER R WITH ACUTEzcSMALL LETTER R WITH ACUTEzCAPITAL LETTE",
     "R R WITH CEDILLAzeSMALL LETTER R WITH CEDILLAzcCAPITAL LETTER R WITH CARONzcSMALL LETTER R W",
     "ITH CARONzCAPITAL LETTER S WITH ACUTEzcSMALL LETTER S WITH ACUTEzCAPITAL LETTER S WITH CIRCU",
     "MFLEXzhSMALL LETTER S WITH CIRCUMFLEXzfCAPITAL LETTER S WITH CEDILLAzeSMALL LETTER S WITH CE",
     "DILLAzcCAPITAL LETTER S WITH CARONzcSMALL LETTER S WITH CARONzCAPITAL LETTER T WITH CEDILLAz",
     "eSMALL LETTER T WITH CEDILLAzcCAPITAL LETTER T WITH CARONzcSMALL LETTER T WITH CARONzCAPITAL",
     " LETTER T WITH STROKEzdSMALL LETTER T WITH STROKEzbCAPITAL LETTER U WITH TILDEzcSMALL LETTER",
     " U WITH TILDEzCAPITAL LETTER U WITH MACRONzdSMALL LETTER U WITH MACRONzbCAPITAL LETTER U WIT",
     "H BREVEzcSMALL LETTER U WITH BREVEzCAPITAL LETTER U WITH RING ABOVEzhSMALL LETTER U WITH RIN",
     "G ABOVEzfCAPITAL LETTER U WITH DOUBLE ACUTEzjSMALL LETTER U WITH DOUBLE ACUTEzhCAPITAL LETTE",
     "R U WITH OGONEKzdSMALL LETTER U WITH OGONEKzbCAPITAL LETTER W WITH CIRCUMFLEXzhSMALL LETTER ",
     "W WITH CIRCUMFLEXzfCAPITAL LETTER Y WITH CIRCUMFLEXzhSMALL LETTER Y WITH CIRCUMFLEXzfCAPITAL",
     " LETTER Y WITH DIAERESISqZ WITH ACUTEzcSMALL LETTER Z WITH ACUTEzCAPITAL LETTER Z WITH DOT A",
     "BOVEzgSMALL LETTER Z WITH DOT ABOVEzeCAPITAL LETTER Z WITH CARONzcSMALL LETTER Z WITH CARONm",
     "LONG SgB WITH STROKEzbCAPITAL LETTER B WITH HOOKeTOPBARzdSMALL LETTER B WITH TOPBARzbCAPITAL",
     " LETTER TONE SIXxSMALL LETTER TONE SIXvCAPITAL LETTER OPEN OgC WITH HOOKzbSMALL LETTER C WIT",
     "H HOOKyCAPITAL LETTER AFRICAN DjD WITH HOOKeTOPBARzdSMALL LETTER D WITH TOPBARnTURNED DELTAz",
     "CAPITAL LETTER REVERSED EkSCHWAfOPEN EgF WITH HOOKzbSMALL LETTER F WITH HOOKyCAPITAL LETTER ",
     "G WITH HOOKkAMMAuSMALL LETTER HVpCAPITAL LETTER IOTAd WITH STROKEnK WITH HOOKzbSMALL LETTER ",
     "K WITH HOOKlL WITH BARjAMBDA WITH STROKEzgCAPITAL LETTER TURNED MiN WITH LEFT HOOKzgSMALL LE",
     "TTER N WITH LONG RIGHT LEGzjCAPITAL LETTER O WITH MIDDLE TILDEmHORNzbSMALL LETTER O WITH HOR",
     "NyCAPITAL LETTER OIrSMALL LETTER OIpCAPITAL LETTER P WITH HOOKzbSMALL LETTER P WITH HOOKyLET",
     "TER YRjCAPITAL LETTER TONE TWOxSMALL LETTER TONE TWOvCAPITAL LETTER ESHsLETTER REVERSED ESH ",
     "LOOPySMALL LETTER T WITH PALATAL HOOKzhCAPITAL LETTER T WITH HOOKzbSMALL LETTER T WITH HOOKy",
     "CAPITAL LETTER T WITH RETROFLEX HOOKvU WITH HORNzbSMALL LETTER U WITH HORNyCAPITAL LETTER UP",
     "SILONhV WITH HOOKlY WITH HOOKzbSMALL LETTER Y WITH HOOKyCAPITAL LETTER Z WITH STROKEzdSMALL ",
     "LETTER Z WITH STROKEzbCAPITAL LETTER EZHa REVERSEDzcSMALL LETTER EZH REVERSEDiWITH TAILzbLET",
     "TER TWO WITH STROKEwCAPITAL LETTER TONE FIVEySMALL LETTER TONE FIVEwLETTER INVERTED GLOTTAL ",
     "STOP WITH STROKEziWYNNeDENTAL CLICKmLATERAL CLICKnALVEOLAR CLICKoRETROFLEX CLICKwCAPITAL LET",
     "TER DZ WITH CARONm WITH SMALL LETTER Z WITH CARONzwSMALL LETTER DZ WITH CARONzbCAPITAL LETTE",
     "R LJb WITH SMALL LETTER JzlSMALL LETTER LJpCAPITAL LETTER NJb WITH SMALL LETTER JzlSMALL LET",
     "TER NJpCAPITAL LETTER A WITH CARONzcSMALL LETTER A WITH CARONzCAPITAL LETTER I WITH CARONzcS",
     "MALL LETTER I WITH CARONzCAPITAL LETTER O WITH CARONzcSMALL LETTER O WITH CARONzCAPITAL LETT",
     "ER U WITH CARONzcSMALL LETTER U WITH CARONzCAPITAL LETTER U WITH DIAERESIS AND MACRONzrSMALL",
     " LETTER U WITH DIAERESIS AND MACRONzpCAPITAL LETTER U WITH DIAERESIS AND ACUTEzqSMALL LETTER",
     " U WITH DIAERESIS AND ACUTEzoCAPITAL LETTER U WITH DIAERESIS AND CARONzqSMALL LETTER U WITH ",
     "DIAERESIS AND CARONzoCAPITAL LETTER U WITH DIAERESIS AND GRAVEzqSMALL LETTER U WITH DIAERESI",
     "S AND GRAVEzbTURNED EvCAPITAL LETTER A WITH DIAERESIS AND MACRONzrSMALL LETTER A WITH DIAERE",
     "SIS AND MACRONzpCAPITAL LETTER A WITH DOT ABOVE AND MACRONzrSMALL LETTER A WITH DOT ABOVE AN",
     "D MACRONzpCAPITAL LETTER AE WITH MACRONzeSMALL LETTER AE WITH MACRONzcCAPITAL LETTER G WITH ",
     "STROKEzdSMALL LETTER G WITH STROKEzbCAPITAL LETTER G WITH CARONzcSMALL LETTER G WITH CARONzC",
     "APITAL LETTER K WITH CARONzcSMALL LETTER K WITH CARONzCAPITAL LETTER O WITH OGONEKzdSMALL LE",
     "TTER O WITH OGONEKzbCAPITAL LETTER O WITH OGONEK AND MACRONzoSMALL LETTER O WITH OGONEK AND ",
     "MACRONzmCAPITAL LETTER EZH WITH CARONzeSMALL LETTER EZH WITH CARONoJ WITH CARONzCAPITAL LETT",
     "ER DZb WITH SMALL LETTER ZzlSMALL LETTER DZpCAPITAL LETTER G WITH ACUTEzcSMALL LETTER G WITH",
     " ACUTEzCAPITAL LETTER HWAIRfWYNNeN WITH GRAVEzcSMALL LETTER N WITH GRAVEzCAPITAL LETTER A WI",
     "TH RING ABOVE AND ACUTEzrSMALL LETTER A WITH RING ABOVE AND ACUTEzpCAPITAL LETTER AE WITH AC",
     "UTEzdSMALL LETTER AE WITH ACUTEzbCAPITAL LETTER O WITH STROKE AND ACUTEznSMALL LETTER O WITH",
     " STROKE AND ACUTEzlCAPITAL LETTER A WITH DOUBLE GRAVEzjSMALL LETTER A WITH DOUBLE GRAVEzhCAP",
     "ITAL LETTER A WITH INVERTED BREVEzlSMALL LETTER A WITH INVERTED BREVEzjCAPITAL LETTER E WITH",
     " DOUBLE GRAVEzjSMALL LETTER E WITH DOUBLE GRAVEzhCAPITAL LETTER E WITH INVERTED BREVEzlSMALL",
     " LETTER E WITH INVERTED BREVEzjCAPITAL LETTER I WITH DOUBLE GRAVEzjSMALL LETTER I WITH DOUBL",
     "E GRAVEzhCAPITAL LETTER I WITH INVERTED BREVEzlSMALL LETTER I WITH INVERTED BREVEzjCAPITAL L",
     "ETTER O WITH DOUBLE GRAVEzjSMALL LETTER O WITH DOUBLE GRAVEzhCAPITAL LETTER O WITH INVERTED ",
     "BREVEzlSMALL LETTER O WITH INVERTED BREVEzjCAPITAL LETTER R WITH DOUBLE GRAVEzjSMALL LETTER ",
     "R WITH DOUBLE GRAVEzhCAPITAL LETTER R WITH INVERTED BREVEzlSMALL LETTER R WITH INVERTED BREV",
     "EzjCAPITAL LETTER U WITH DOUBLE GRAVEzjSMALL LETTER U WITH DOUBLE GRAVEzhCAPITAL LETTER U WI",
     "TH INVERTED BREVEzlSMALL LETTER U WITH INVERTED BREVEzjCAPITAL LETTER S WITH COMMA BELOWziSM",
     "ALL LETTER S WITH COMMA BELOWzgCAPITAL LETTER T WITH COMMA BELOWziSMALL LETTER T WITH COMMA ",
     "BELOWzgCAPITAL LETTER YOGHtSMALL LETTER YOGHrCAPITAL LETTER H WITH CARONzcSMALL LETTER H WIT",
     "H CARONzCAPITAL LETTER N WITH LONG RIGHT LEGzlSMALL LETTER D WITH CURLyCAPITAL LETTER OUrSMA",
     "LL LETTER OUpCAPITAL LETTER Z WITH HOOKzbSMALL LETTER Z WITH HOOKyCAPITAL LETTER A WITH DOT ",
     "ABOVEzgSMALL LETTER A WITH DOT ABOVEzeCAPITAL LETTER E WITH CEDILLAzeSMALL LETTER E WITH CED",
     "ILLAzcCAPITAL LETTER O WITH DIAERESIS AND MACRONzrSMALL LETTER O WITH DIAERESIS AND MACRONzp",
     "CAPITAL LETTER O WITH TILDE AND MACRONznSMALL LETTER O WITH TILDE AND MACRONzlCAPITAL LETTER",
     " O WITH DOT ABOVEzgSMALL LETTER O WITH DOT ABOVEzeCAPITAL LETTER O WITH DOT ABOVE AND MACRON",
     "zrSMALL LETTER O WITH DOT ABOVE AND MACRONzpCAPITAL LETTER Y WITH MACRONzdSMALL LETTER Y WIT",
     "H MACRONnL WITH CURLlN WITH CURLlT WITH CURLlDOTLESS JiB DIGRAPHkQP DIGRAPHxCAPITAL LETTER A",
     " WITH STROKEnC WITH STROKEzdSMALL LETTER C WITH STROKEzbCAPITAL LETTER L WITH BARkT WITH DIA",
     "GONAL STROKEzmSMALL LETTER S WITH SWASH TAILrZ WITH SWASH TAILzfCAPITAL LETTER GLOTTAL STOPz",
     "cSMALL LETTER GLOTTAL STOPzCAPITAL LETTER B WITH STROKEnU BARfTURNED ViE WITH STROKEzdSMALL ",
     "LETTER E WITH STROKEzbCAPITAL LETTER J WITH STROKEzdSMALL LETTER J WITH STROKEzbCAPITAL LETT",
     "ER SMALL Q WITH HOOK TAILzmSMALL LETTER Q WITH HOOK TAILzeCAPITAL LETTER R WITH STROKEzdSMAL",
     "L LETTER R WITH STROKEzbCAPITAL LETTER Y WITH STROKEzdSMALL LETTER Y WITH STROKEnTURNED AiAL",
     "PHAfTURNED ALPHAmB WITH HOOKlOPEN OgC WITH CURLlD WITH TAILeHOOKlREVERSED EkSCHWAa WITH HOOK",
     "pOPEN EgREVERSED OPEN Ea WITH HOOKzCLOSED REVERSED OPEN EwDOTLESS J WITH STROKEvG WITH HOOKl",
     "SCRIPT GvLETTER SMALL CAPITAL GwSMALL LETTER GAMMAfRAMS HORNjTURNED HiH WITH HOOKkENG WITH H",
     "OOKoI WITH STROKEmOTArLETTER SMALL CAPITAL IwSMALL LETTER L WITH MIDDLE TILDEmBELTeRETROFLEX",
     " HOOKuEZHeTURNED Ma WITH LONG LEGwM WITH HOOKlN WITH LEFT HOOKjRETROFLEX HOOKzjLETTER SMALL ",
     "CAPITAL NwSMALL LETTER BARRED OvLETTER SMALL CAPITAL OExSMALL LETTER CLOSED OMEGAmPHIdTURNED",
     " Ra WITH LONG LEGiHOOKsR WITH LONG LEGiTAILeFISHHOOKoEVERSED R WITH FISHHOOKzmLETTER SMALL C",
     "APITAL RbINVERTED RzgSMALL LETTER S WITH HOOKlESHdDOTLESS J WITH STROKE AND HOOKzfSQUAT REVE",
     "RSED ESHsESH WITH CURLnTURNED Th WITH RETROFLEX HOOKvU BARePSILONhV WITH HOOKlTURNED VbWbYvL",
     "ETTER SMALL CAPITAL YwSMALL LETTER Z WITH RETROFLEX HOOKoCURLlEZHa WITH CURLzbLETTER GLOTTAL",
     " STOPmPHARYNGEAL VOICED FRICATIVEzcINVERTED GLOTTAL STOPvSTRETCHED ClBILABIAL CLICKoSMALL CA",
     "PITAL BwSMALL LETTER CLOSED OPEN EzbLETTER SMALL CAPITAL G WITH HOOKlHwSMALL LETTER J WITH C",
     "ROSSED-TAILtTURNED KvLETTER SMALL CAPITAL LwSMALL LETTER Q WITH HOOKyLETTER GLOTTAL STOP WIT",
     "H STROKEyREVERSED GLOTTAL STOP WITH STROKEzpSMALL LETTER DZ DIGRAPHjEZH DIGRAPHlZ DIGRAPH WI",
     "TH CURLuTS DIGRAPHjESH DIGRAPHlC DIGRAPH WITH CURLuFENG DIGRAPHmLS DIGRAPHjZ DIGRAPHxLETTER ",
     "BILABIAL PERCUSSIVErDENTAL PERCUSSIVEzbSMALL LETTER TURNED H WITH FISHHOOKa AND TAILzzMODIFI",
     "ER LETTER SMALL Ha WITH HOOKlJbRbTURNED Ra WITH HOOKsCAPITAL INVERTED RsWbYhPRIMEfDOUBLE PRI",
     "MEmTURNED COMMAmAPOSTROPHEkREVERSED COMMAnIGHT HALF RINGpLEFT HALF RINGoGLOTTAL STOPmREVERSE",
     "D GLOTTAL STOPvLEFT ARROWHEADoRIGHT ARROWHEADpUP ARROWHEADmDOWN ARROWHEADoCIRCUMFLEX ACCENTz",
     "iCARONfMODIFIER LETTER VERTICAL LINEnMACRONgACUTE ACCENTmGRAVE ACCENTmLOW VERTICAL LINEnMACR",
     "ONgGRAVE ACCENTmACUTE ACCENTqTRIANGULAR COLONqHALF TRIANGULAR COLONvCENTRED RIGHT HALF RINGp",
     "LEFT HALF RINGwUP TACKhDOWN TACKjPLUS SIGNjMINUS SIGNzbBREVEfDOT ABOVEjRING ABOVEkOGONEKgSMA",
     "LL TILDElDOUBLE ACUTE ACCENTtMODIFIER LETTER RHOTIC HOOKlCROSS ACCENTmSMALL GAMMAfLbSbXbREVE",
     "RSED GLOTTAL STOPzcEXTRA-HIGH TONE BARtHIGH TONE BARnMID TONE BARmLOW TONE BARmEXTRA-LOW TON",
     "E BARsYIN DEPARTING TONE MARKwANG DEPARTING TONE MARKyVOICINGhUNASPIRATEDlDOUBLE APOSTROPHEr",
     "LOW DOWN ARROWHEADoUP ARROWHEADmLEFT ARROWHEADoRIGHT ARROWHEADnNGiMIDDLE GRAVE ACCENTmDOUBLE",
     " GRAVE ACCENTmACUTE ACCENTzbLOW TILDEjRAISED COLONmBEGIN HIGH TONEpEND HIGH TONEnBEGIN LOW T",
     "ONEoEND LOW TONEmSHELFfOPEN SHELFkLOW LEFT ARROWzfCOMBINING GRAVE ACCENTmACUTE ACCENTmCIRCUM",
     "FLEX ACCENTrTILDEfMACRONgOVERLINEiBREVEfDOT ABOVEiIAERESISjHOOK ABOVEkRING ABOVEkDOUBLE ACUT",
     "E ACCENTtCARONfVERTICAL LINE ABOVEtDOUBLE VERTICAL LINE ABOVEtGRAVE ACCENTtCANDRABINDUlINVER",
     "TED BREVEoTURNED COMMA ABOVEsCOMMA ABOVElREVERSED COMMA ABOVEuCOMMA ABOVE RIGHTrGRAVE ACCENT",
     " BELOWsACUTE ACCENT BELOWsLEFT TACK BELOWpRIGHT TACK BELOWqLEFT ANGLE ABOVEqHORNeLEFT HALF R",
     "ING BELOWuUP TACK BELOWnDOWN TACK BELOWpPLUS SIGN BELOWpMINUS SIGN BELOWqPALATALIZED HOOK BE",
     "LOWwRETROFLEX HOOK BELOWuDOT BELOWiIAERESIS BELOWpRING BELOWkCOMMA BELOWkEDILLAhOGONEKgVERTI",
     "CAL LINE BELOWtBRIDGE BELOWmINVERTED DOUBLE ARCH BELOWzbCARON BELOWkIRCUMFLEX ACCENT BELOWxB",
     "REVE BELOWlINVERTED BREVE BELOWuTILDE BELOWlMACRON BELOWmLOW LINEiDOUBLE LOW LINEpTILDE OVER",
     "LAYnSHORT STROKE OVERLAYuLONG STROKE OVERLAYtSHORT SOLIDUS OVERLAYvLONG SOLIDUS OVERLAYuRIGH",
     "T HALF RING BELOWvINVERTED BRIDGE BELOWvSQUARE BELOWlEAGULL BELOWnX ABOVEhVERTICAL TILDEoDOU",
     "BLE OVERLINEpGRAVE TONE MARKpACUTE TONE MARKpGREEK PERISPOMENIlKORONIShDIALYTIKA TONOSpYPOGE",
     "GRAMMENItBRIDGE ABOVEmEQUALS SIGN BELOWrDOUBLE VERTICAL LINE BELOWzbLEFT ANGLE BELOWqNOT TIL",
     "DE ABOVEpHOMOTHETIC ABOVEqALMOST EQUAL TO ABOVEvLEFT RIGHT ARROW BELOWwUPWARDS ARROW BELOWtG",
     "RAPHEME JOINERpRIGHT ARROWHEAD ABOVEvLEFT HALF RING ABOVEuFERMATAhX BELOWhLEFT ARROWHEAD BEL",
     "OWuRIGHT ARROWHEAD BELOWfAND UP ARROWHEAD BELOWzhHALF RING ABOVEvDOT ABOVE RIGHTpASTERISK BE",
     "LOWoDOUBLE RING BELOWrZIGZAG ABOVEmDOUBLE BREVE BELOWhEfMACRONa BELOWmTILDEfINVERTED BREVEoR",
     "IGHTWARDS ARROW BELOWzeLATIN SMALL LETTER AbEbIbObUbCbDbHbMbRbTbVbXzfGREEK CAPITAL LETTER HE",
     "TAtSMALL LETTER HETArCAPITAL LETTER ARCHAIC SAMPIzdSMALL LETTER ARCHAIC SAMPIzbNUMERAL SIGNm",
     "LOWER NUMERAL SIGNsCAPITAL LETTER PAMPHYLIAN DIGAMMAziSMALL LETTER PAMPHYLIAN DIGAMMA"]⟩,
  ⟨0x37A, ["GREEK YPOGEGRAMMENInSMALL REVERSED LUNATE SIGMA SYMBOLzdDOTTED LUNATE SIGMA SYMBOLzbRE",
     "VERSED DOTTED LUNATE SIGMA SYMBOLzqQUESTION MARKnCAPITAL LETTER YOT"]⟩,
  ⟨0x384, ["GREEK TONOSfDIALYTIKA TONOSpCAPITAL LETTER ALPHA WITH TONOSzgANO TELEIAkCAPITAL LETTER",
     " EPSILON WITH TONOSrTA WITH TONOSoIOTA WITH TONOS"]⟩,
  ⟨0x38C, ["GREEK CAPITAL LETTER OMICRON WITH TONOS"]⟩,
  ⟨0x38E, ["GREEK CAPITAL LETTER UPSILON WITH TONOSsOMEGA WITH TONOSzgSMALL LETTER IOTA WITH DIALY",
     "TIKA AND TONOSzrCAPITAL LETTER ALPHAfBETAeGAMMAfDELTAfEPSILONhZETAeETAdTHETAfIOTAeKAPPAfLAMD",
     "AfMUcNUcXIcOMICRONhPIcRHO"]⟩,
  ⟨0x3A3, ["GREEK CAPITAL LETTER SIGMAfTAUdUPSILONhPHIdCHIdPSIdOMEGAfIOTA WITH DIALYTIKAtUPSILON W",
     "ITH DIALYTIKAzmSMALL LETTER ALPHA WITH TONOSqEPSILON WITH TONOSrTA WITH TONOSoIOTA WITH TONO",
     "SpUPSILON WITH DIALYTIKA AND TONOSzhALPHAfBETAeGAMMAfDELTAfEPSILONhZETAeETAdTHETAfIOTAeKAPPA",
     "fLAMDAfMUcNUcXIcOMICRONhPIcRHOdFINAL SIGMAlSIGMAfTAUdUPSILONhPHIdCHIdPSIdOMEGAfIOTA WITH DIA",
     "LYTIKAtUPSILON WITH DIALYTIKAwOMICRON WITH TONOSsUPSILON WITH TONOSsOMEGA WITH TONOSzeCAPITA",
     "L KAI SYMBOLsBETA SYMBOLlTHETA SYMBOLmUPSILON WITH HOOK SYMBOLlACUTE AND HOOK SYMBOLvDIAERES",
     "IS AND HOOK SYMBOLznPHI SYMBOLjI SYMBOLjKAI SYMBOLkLETTER ARCHAIC KOPPAuSMALL LETTER ARCHAIC",
     " KOPPAzbLETTER STIGMAnSMALL LETTER STIGMAtLETTER DIGAMMAoSMALL LETTER DIGAMMAuLETTER KOPPAmS",
     "MALL LETTER KOPPAsLETTER SAMPImSMALL LETTER SAMPIyCOPTIC CAPITAL LETTER SHEItSMALL LETTER SH",
     "EIrCAPITAL LETTER FEIsSMALL LETTER FEIqCAPITAL LETTER KHEItSMALL LETTER KHEIrCAPITAL LETTER ",
     "HORItSMALL LETTER HORIrCAPITAL LETTER GANGIAvSMALL LETTER GANGIAtCAPITAL LETTER SHIMAuSMALL ",
     "LETTER SHIMAsCAPITAL LETTER DEIsSMALL LETTER DEIxGREEK KAPPA SYMBOLmRHO SYMBOLkLUNATE SIGMA ",
     "SYMBOLsETTER YOTkCAPITAL THETA SYMBOLuLUNATE EPSILON SYMBOLvREVERSED LUNATE EPSILON SYMBOLzf",
     "CAPITAL LETTER SHOsSMALL LETTER SHOqCAPITAL LUNATE SIGMA SYMBOLsETTER SANsSMALL LETTER SANqR",
     "HO WITH STROKE SYMBOLwCAPITAL REVERSED LUNATE SIGMA SYMBOLzdDOTTED LUNATE SIGMA SYMBOLzbREVE",
     "RSED DOTTED LUNATE SIGMA SYMBOLzyCYRILLIC CAPITAL LETTER IE WITH GRAVEmOcDJEdGJEdUKRAINIAN I",
     "EmDZEdBYELORUSSIAN-UKRAINIAN IyYIcJEcLJEdNJEdTSHEeKJEdI WITH GRAVEmSHORT UhDZHEeAbBEcVEcGHEd",
     "DEcIEcZHEcEcIbSHORT IhKAcELbMbNcObPEcERbScTEcUbEFcHAcTSEdCHEdSHAbCHAfHARD SIGNjYERUeSOFT SIG",
     "NjEbYUbArSMALL LETTER AbBEcVEcGHEdDEcIEcZHEcEcIbSHORT IhKAcELbMbNcObPEcERbScTEcUbEFcHAcTSEdC",
     "HEdSHAbCHAfHARD SIGNjYERUeSOFT SIGNjEbYUbAcIE WITH GRAVEmOcDJEdGJEdUKRAINIAN IEmDZEdBYELORUS",
     "SIAN-UKRAINIAN IyYIcJEcLJEdNJEdTSHEeKJEdI WITH GRAVEmSHORT UhDZHErCAPITAL LETTER OMEGAuSMALL",
     " LETTER OMEGAsCAPITAL LETTER YATsSMALL LETTER YATqCAPITAL LETTER IOTIFIED EzSMALL LETTER IOT",
     "IFIED ExCAPITAL LETTER LITTLE YUSzSMALL LETTER LITTLE YUSxCAPITAL LETTER IOTIFIED LITTLE YUS",
     "zjSMALL LETTER IOTIFIED LITTLE YUSzhCAPITAL LETTER BIG YUSwSMALL LETTER BIG YUSuCAPITAL LETT",
     "ER IOTIFIED BIG YUSzgSMALL LETTER IOTIFIED BIG YUSzeCAPITAL LETTER KSIsSMALL LETTER KSIqCAPI",
     "TAL LETTER PSIsSMALL LETTER PSIqCAPITAL LETTER FITAtSMALL LETTER FITArCAPITAL LETTER IZHITSA",
     "wSMALL LETTER IZHITSAuCAPITAL LETTER IZHITSA WITH DOUBLE GRAVE ACCENTzwSMALL LETTER IZHITSA ",
     "WITH DOUBLE GRAVE ACCENTzuCAPITAL LETTER UKrSMALL LETTER UKpCAPITAL LETTER ROUND OMEGAzbSMAL",
     "L LETTER ROUND OMEGAyCAPITAL LETTER OMEGA WITH TITLOzgSMALL LETTER OMEGA WITH TITLOzeCAPITAL",
     " LETTER OTrSMALL LETTER OTpCAPITAL LETTER KOPPAuSMALL LETTER KOPPAsTHOUSANDS SIGNwOMBINING C",
     "YRILLIC TITLOfPALATALIZATIONoDASIA PNEUMATAoPSILI PNEUMATAnOKRYTIEiHUNDRED THOUSANDS SIGNwMI",
     "LLIONS SIGNzgYRILLIC CAPITAL LETTER SHORT I WITH TAILzhSMALL LETTER SHORT I WITH TAILzfCAPIT",
     "AL LETTER SEMISOFT SIGNzdSMALL LETTER SEMISOFT SIGNzbCAPITAL LETTER ER WITH TICKzcSMALL LETT",
     "ER ER WITH TICKzCAPITAL LETTER GHE WITH UPTURNzfSMALL LETTER GHE WITH UPTURNzdCAPITAL LETTER",
     " GHE WITH STROKEzfSMALL LETTER GHE WITH STROKEzdCAPITAL LETTER GHE WITH MIDDLE HOOKzkSMALL L",
     "ETTER GHE WITH MIDDLE HOOKziCAPITAL LETTER ZHE WITH DESCENDERziSMALL LETTER ZHE WITH DESCEND",
     "ERzgCAPITAL LETTER ZE WITH DESCENDERzhSMALL LETTER ZE WITH DESCENDERzfCAPITAL LETTER KA WITH",
     " DESCENDERzhSMALL LETTER KA WITH DESCENDERzfCAPITAL LETTER KA WITH VERTICAL STROKEznSMALL LE",
     "TTER KA WITH VERTICAL STROKEzlCAPITAL LETTER KA WITH STROKEzeSMALL LETTER KA WITH STROKEzcCA",
     "PITAL LETTER BASHKIR KAzSMALL LETTER BASHKIR KAxCAPITAL LETTER EN WITH DESCENDERzhSMALL LETT",
     "ER EN WITH DESCENDERzfCAPITAL LIGATURE EN GHExSMALL LIGATURE EN GHEvCAPITAL LETTER PE WITH M",
     "IDDLE HOOKzjSMALL LETTER PE WITH MIDDLE HOOKzhCAPITAL LETTER ABKHASIAN HAzcSMALL LETTER ABKH",
     "ASIAN HAzCAPITAL LETTER ES WITH DESCENDERzhSMALL LETTER ES WITH DESCENDERzfCAPITAL LETTER TE",
     " WITH DESCENDERzhSMALL LETTER TE WITH DESCENDERzfCAPITAL LETTER STRAIGHT UzSMALL LETTER STRA",
     "IGHT UxCAPITAL LETTER STRAIGHT U WITH STROKEzmSMALL LETTER STRAIGHT U WITH STROKEzkCAPITAL L",
     "ETTER HA WITH DESCENDERzhSMALL LETTER HA WITH DESCENDERzfCAPITAL LIGATURE TE TSExSMALL LIGAT",
     "URE TE TSEvCAPITAL LETTER CHE WITH DESCENDERziSMALL LETTER CHE WITH DESCENDERzgCAPITAL LETTE",
     "R CHE WITH VERTICAL STROKEzoSMALL LETTER CHE WITH VERTICAL STROKEzmCAPITAL LETTER SHHAtSMALL",
     " LETTER SHHArCAPITAL LETTER ABKHASIAN CHEzdSMALL LETTER ABKHASIAN CHEzbCAPITAL LETTER ABKHAS",
     "IAN CHE WITH DESCENDERzsSMALL LETTER ABKHASIAN CHE WITH DESCENDERzqLETTER PALOCHKApCAPITAL L",
     "ETTER ZHE WITH BREVEzeSMALL LETTER ZHE WITH BREVEzcCAPITAL LETTER KA WITH HOOKzcSMALL LETTER",
     " KA WITH HOOKzCAPITAL LETTER EL WITH TAILzcSMALL LETTER EL WITH TAILzCAPITAL LETTER EN WITH ",
     "HOOKzcSMALL LETTER EN WITH HOOKzCAPITAL LETTER EN WITH TAILzcSMALL LETTER EN WITH TAILzCAPIT",
     "AL LETTER KHAKASSIAN CHEzeSMALL LETTER KHAKASSIAN CHEzcCAPITAL LETTER EM WITH TAILzcSMALL LE",
     "TTER EM WITH TAILmPALOCHKAvCAPITAL LETTER A WITH BREVEzcSMALL LETTER A WITH BREVEzCAPITAL LE",
     "TTER A WITH DIAERESISzgSMALL LETTER A WITH DIAERESISzeCAPITAL LIGATURE A IEvSMALL LIGATURE A",
     " IEtCAPITAL LETTER IE WITH BREVEzdSMALL LETTER IE WITH BREVEzbCAPITAL LETTER SCHWAuSMALL LET",
     "TER SCHWAsCAPITAL LETTER SCHWA WITH DIAERESISzkSMALL LETTER SCHWA WITH DIAERESISziCAPITAL LE",
     "TTER ZHE WITH DIAERESISziSMALL LETTER ZHE WITH DIAERESISzgCAPITAL LETTER ZE WITH DIAERESISzh",
     "SMALL LETTER ZE WITH DIAERESISzfCAPITAL LETTER ABKHASIAN DZEzdSMALL LETTER ABKHASIAN DZEzbCA",
     "PITAL LETTER I WITH MACRONzdSMALL LETTER I WITH MACRONzbCAPITAL LETTER I WITH DIAERESISzgSMA",
     "LL LETTER I WITH DIAERESISzeCAPITAL LETTER O WITH DIAERESISzgSMALL LETTER O WITH DIAERESISze",
     "CAPITAL LETTER BARRED OxSMALL LETTER BARRED OvCAPITAL LETTER BARRED O WITH DIAERESISznSMALL ",
     "LETTER BARRED O WITH DIAERESISzlCAPITAL LETTER E WITH DIAERESISzgSMALL LETTER E WITH DIAERES",
     "ISzeCAPITAL LETTER U WITH MACRONzdSMALL LETTER U WITH MACRONzbCAPITAL LETTER U WITH DIAERESI",
     "SzgSMALL LETTER U WITH DIAERESISzeCAPITAL LETTER U WITH DOUBLE ACUTEzjSMALL LETTER U WITH DO",
     "UBLE ACUTEzhCAPITAL LETTER CHE WITH DIAERESISziSMALL LETTER CHE WITH DIAERESISzgCAPITAL LETT",
     "ER GHE WITH DESCENDERziSMALL LETTER GHE WITH DESCENDERzgCAPITAL LETTER YERU WITH DIAERESISzj",
     "SMALL LETTER YERU WITH DIAERESISzhCAPITAL LETTER GHE WITH STROKE AND HOOKzoSMALL LETTER GHE ",
     "WITH STROKE AND HOOKzmCAPITAL LETTER HA WITH HOOKzcSMALL LETTER HA WITH HOOKzCAPITAL LETTER ",
     "HA WITH STROKEzeSMALL LETTER HA WITH STROKEzcCAPITAL LETTER KOMI DEwSMALL LETTER KOMI DEuCAP",
     "ITAL LETTER KOMI DJExSMALL LETTER KOMI DJEvCAPITAL LETTER KOMI ZJExSMALL LETTER KOMI ZJEvCAP",
     "ITAL LETTER KOMI DZJEySMALL LETTER KOMI DZJEwCAPITAL LETTER KOMI LJExSMALL LETTER KOMI LJEvC",
     "APITAL LETTER KOMI NJExSMALL LETTER KOMI NJEvCAPITAL LETTER KOMI SJExSMALL LETTER KOMI SJEvC",
     "APITAL LETTER KOMI TJExSMALL LETTER KOMI TJEvCAPITAL LETTER REVERSED ZEzbSMALL LETTER REVERS",
     "ED ZEyCAPITAL LETTER EL WITH HOOKzcSMALL LETTER EL WITH HOOKzCAPITAL LETTER LHAsSMALL LETTER",
     " LHAqCAPITAL LETTER RHAsSMALL LETTER RHAqCAPITAL LETTER YAEsSMALL LETTER YAEqCAPITAL LETTER ",
     "QArSMALL LETTER QApCAPITAL LETTER WErSMALL LETTER WEpCAPITAL LETTER ALEUT KAxSMALL LETTER AL",
     "EUT KAvCAPITAL LETTER EL WITH MIDDLE HOOKzjSMALL LETTER EL WITH MIDDLE HOOKzhCAPITAL LETTER ",
     "EN WITH MIDDLE HOOKzjSMALL LETTER EN WITH MIDDLE HOOKzhCAPITAL LETTER PE WITH DESCENDERzhSMA",
     "LL LETTER PE WITH DESCENDERzfCAPITAL LETTER SHHA WITH DESCENDERzjSMALL LETTER SHHA WITH DESC",
     "ENDERzhCAPITAL LETTER EN WITH LEFT HOOKzhSMALL LETTER EN WITH LEFT HOOKzfCAPITAL LETTER DZZH",
     "EuSMALL LETTER DZZHEsCAPITAL LETTER DCHEtSMALL LETTER DCHErCAPITAL LETTER EL WITH DESCENDERz",
     "hSMALL LETTER EL WITH DESCENDER"]⟩,
  ⟨0x531, ["ARMENIAN CAPITAL LETTER AYBdBENdGIMdDAcECHdZAcEHbTcTOcZHEdINIdLIWNeXEHdCAcKENdHOcJAcGH",
     "ADeCHEHeMENdYIcNOWdSHAdVOcCHAdPEHdJHEHeRAcSEHdVEWdTIWNeREHdCOcYIWNePIWReKEHdOHcFEH"]⟩,
  ⟨0x559, ["ARMENIAN MODIFIER LETTER LEFT HALF RINGzfAPOSTROPHEkEMPHASIS MARKmXCLAMATION MARKqCOMM",
     "AfQUESTION MARKnABBREVIATION MARKrSMALL LETTER TURNED AYBkAYBdBENdGIMdDAcECHdZAcEHbTcTOcZHEd",
     "INIdLIWNeXEHdCAcKENdHOcJAcGHADeCHEHeMENdYIcNOWdSHAdVOcCHAdPEHdJHEHeRAcSEHdVEWdTIWNeREHdCOcYI",
     "WNePIWReKEHdOHcFEHjIGATURE ECH YIWNqETTER YI WITH STROKEzcFULL STOPjHYPHEN"]⟩,
  ⟨0x58D, ["RIGHT-FACING ARMENIAN ETERNITY SIGNzkLEFT-FACING ARMENIAN ETERNITY SIGNzjARMENIAN DRAM",
     " SIGN"]⟩,
  ⟨0x591, ["HEBREW ACCENT ETNAHTAhSEGOLeHALSHELETkZAQEF QATANfGADOLlTIPEHAgREVIAfZARQAfPASHTAgYETI",
     "VfTEVIRfGERESHa MUQDAMkSHAYIMjQARNEY PARAlTELISHA GEDOLAoPAZERfATNAH HAFUKHmMUNAHeAHAPAKHhER",
     "KHAa KEFULAnDARGAfQADMAfTELISHA QETANAoYERAH BEN YOMOoOLEdILUYeDEHIeZINORmMARK MASORA CIRCLE",
     "sPOINT SHEVAfHATAF SEGOLfPATAHfQAMATSlIRIQfTSEREfSEGOLfPATAHfQAMATSgHOLAMa HASER FOR VAVtQUB",
     "UTSgDAGESH OR MAPIQpMETEGkUNCTUATION MAQAFqOINT RAFEjUNCTUATION PASEQqOINT SHIN DOThIN DOTmU",
     "NCTUATION SOF PASUQvMARK UPPER DOTjLOWER DOToPUNCTUATION NUN HAFUKHAwOINT QAMATS QATAN"]⟩,
  ⟨0x5D0, ["HEBREW LETTER ALEFeBETdGIMELfDALETfHEcVAVdZAYINfHETdTETdYODdFINAL KAFjKAFdLAMEDfFINAL ",
     "MEMjMEMdFINAL NUNjNUNdSAMEKHgAYINeFINAL PEiPEcFINAL TSADIlTSADIfQOFdRESHeSHINeTAV"]⟩,
  ⟨0x5EF, ["HEBREW YOD TRIANGLEmLIGATURE YIDDISH DOUBLE VAVkVAV YODhDOUBLE YODzcPUNCTUATION GERESH",
     "dSHAYIM"]⟩,
  ⟨0x600, ["ARABIC NUMBER SIGNlSIGN SANAHkFOOTNOTE MARKERpSIGN SAFHAdMVATlNUMBER MARK ABOVEs-INDIC",
     " CUBE ROOTjFOURTH ROOTs RAYe-INDIC PER MILLE SIGNkTEN THOUSAND SIGNziFGHANI SIGNlRABIC COMMA",
     "fDATE SEPARATORoPOETIC VERSE SIGNrSIGN MISRAfSALLALLAHOU ALAYHE WASSALLAMzdALAYHE ASSALLAMpR",
     "AHMATULLAH ALAYHEqDI ALLAHOU ANHUrTAKHALLUSnMALL HIGH TAHdLIGATURE ALEF WITH LAM WITH YEHzgZ",
     "AINjFATHAfDAMMAfKASRAkEMICOLONjLETTER MARKlEND OF TEXT MARKqTRIPLE DOT PUNCTUATION MARKzcQUE",
     "STION MARKnLETTER KASHMIRI YEHmHAMZAfALEF WITH MADDA ABOVElHAMZA ABOVEvWAW WITH HAMZA ABOVEu",
     "ALEF WITH HAMZA BELOWvYEH WITH HAMZA ABOVEuALEFeBEHdTEH MARBUTAjHcHEHeJEEMeHAHdKHAHeDALdTHAL",
     "eREHdZAINeSEENdHEENeADdDADdTAHdZAHdAINdGHAINfKEHEH WITH TWO DOTS ABOVEnHREE DOTS BELOWzcFARS",
     "I YEH WITH INVERTED VkTWO DOTS ABOVEnHREE DOTS ABOVEznTATWEELhLETTER FEHdQAFdKAFdLAMdMEEMeNO",
     "ONeHEHdWAWdALEF MAKSURAmYEHkFATHATANiDAMMATANiKASRATANiFATHAfDAMMAfKASRAfSHADDAfUKUNfMADDAH ",
     "ABOVEmHAMZA ABOVEfBELOWlSUBSCRIPT ALEFoINVERTED DAMMAoMARK NOON GHUNNAqZWARAKAYiVOWEL SIGN S",
     "MALL V ABOVEnINVERTED SMALL V ABOVEwDOT BELOWuREVERSED DAMMAoFATHA WITH TWO DOTStWAVY HAMZA ",
     "BELOWr-INDIC DIGIT ZEROeONEdTWOcHREEfFOURdIVEeSIXcEVENfEIGHTfNINEr PERCENT SIGNmDECIMAL SEPA",
     "RATORrTHOUSANDS SEPARATORtFIVE POINTED STARrLETTER DOTLESS BEHdQAFlSUPERSCRIPT ALEFqALEF WAS",
     "LAeITH WAVY HAMZA ABOVEfBELOWzbHIGH HAMZAa ALEFeWAWoU WITH HAMZA ABOVEsHIGH HAMZA YEHoTTEHaE",
     "HgBEEHeTEH WITH RINGeTHREE DOTS ABOVE DOWNWARDSzkPEHdTEHEHfBEHEHfHAH WITH HAMZA ABOVElTWO DO",
     "TS VERTICAL ABOVEzhNYEHeDYEHeHAH WITH THREE DOTS ABOVEzTCHEHaEHhDDALdAL WITH RINGeDOT BELOWa",
     " AND SMALL TAHzfHALeDAHALfULcAL WITH THREE DOTS ABOVE DOWNWARDSzbFOUR DOTS ABOVEyRREHdEH WIT",
     "H SMALL VhRINGeDOT BELOWjSMALL V BELOWnDOT BELOW AND DOT ABOVExTWO DOTS ABOVExJEHdREH WITH F",
     "OUR DOTS ABOVEySEEN WITH DOT BELOW AND DOT ABOVExTHREE DOTS BELOWa AND THREE DOTS ABOVEzvAD ",
     "WITH TWO DOTS BELOWnHREE DOTS ABOVEzTAH WITH THREE DOTS ABOVEzAIN WITH THREE DOTS ABOVEzDOTL",
     "ESS FEHlFEH WITH DOT MOVED BELOWlBELOWsVEHdFEH WITH THREE DOTS BELOWzPEHEHfQAF WITH DOT ABOV",
     "EjTHREE DOTS ABOVEzKEHEHfSWASH KAFjKAF WITH RINGeDOT ABOVEsNGcKAF WITH THREE DOTS BELOWzGAFa",
     " WITH RINGnNGOEHfGAF WITH TWO DOTS BELOWwUEHdAF WITH THREE DOTS ABOVEzLAM WITH SMALL VhDOT A",
     "BOVEjTHREE DOTS ABOVEfBELOWzNOON WITH DOT BELOWoGHUNNAlRNOONfNOON WITH RINGeTHREE DOTS ABOVE",
     "zbHEH DOACHASHMEEpTCHEH WITH DOT ABOVEuHEH WITH YEH ABOVEoGOALa WITH HAMZA ABOVEzTEH MARBUTA",
     " GOALqWAW WITH RINGnKIRGHIZ OEkOEcUbYUcKIRGHIZ YUkWAW WITH TWO DOTS ABOVExVEcFARSI YEHjYEH W",
     "ITH TAILeSMALL VqWAW WITH DOT ABOVEsEbYEH WITH THREE DOTS BELOWvBARREEa WITH HAMZA ABOVEzjFU",
     "LL STOPjLETTER AEjSMALL HIGH LIGATURE SAD WITH LAM WITH ALEF MAKSURAzfQAF WITH LAM WITH ALEF",
     " MAKSURAzoMEEM INITIAL FORMrLAM ALEFiJEEMeTHREE DOTSkSEENpEND OF AYAHlSTART OF RUB EL HIZBtM",
     "ALL HIGH ROUNDED ZEROmUPRIGHT RECTANGULAR ZEROyDOTLESS HEAD OF KHAHuMEEM ISOLATED FORMxLOW S",
     "EENiHIGH MADDAkWAWdYEHdHIGH YEHdNOONpPLACE OF SAJDAHpEMPTY CENTRE LOW STOPiHIGH STOPwROUNDED",
     " HIGH STOP WITH FILLED CENTREzlSMALL LOW MEEMoLETTER DAL WITH INVERTED VtREH WITH INVERTED V",
     "ziEXTENDED ARABIC-INDIC DIGIT ZEROeONEdTWOcHREEfFOURdIVEeSIXcEVENfEIGHTfNINEzhARABIC LETTER ",
     "SHEEN WITH DOT BELOWuDAD WITH DOT BELOWsGHAIN WITH DOT BELOWzcSIGN SINDHI AMPERSANDjPOSTPOSI",
     "TION MENzdLETTER HEH WITH INVERTED VziSYRIAC END OF PARAGRAPHqSUPRALINEAR FULL STOPtBLINEAR ",
     "FULL STOPrPRALINEAR COLONpBLINEAR COLONpHORIZONTAL COLONqCOLON SKEWED LEFTeRIGHTsSUPRALINEAR",
     " COLON SKEWED LEFTzcBLINEAR COLON SKEWED RIGHTzdCONTRACTIONlHARKLEAN OBELUSgMETOBELUSjASTERI",
     "SCUS"]⟩,
  ⟨0x70F, ["SYRIAC ABBREVIATION MARKrLETTER ALAPHfSUPERSCRIPT ALAPHrBETHeGAMALa GARSHUNIoDALATHfOT",
     "LESS DALATH RISHtHEcWAWdZAINeHETHeTETHa GARSHUNInYUDHa HEhKAPHeLAMADHgMIMdNUNdSEMKATHhFINAL ",
     "SEMKATHnEbPEcREVERSED PElSADHEfQAPHeRISHeSHINeTAWdPERSIAN BHETHfGHAMALgDHALATHwPTHAHA ABOVEf",
     "BELOWfDOTTEDnZQAPHA ABOVEfBELOWfDOTTEDnRBASA ABOVEfBELOWlDOTTED ZLAMA HORIZONTALkANGULARuHBA",
     "SA ABOVEfBELOWg-ESASA DOTTEDsESASA ABOVEfBELOWlRWAHAfFEMININE DOTmQUSHSHAYAjRUKKAKHAiTWO VER",
     "TICAL DOTS ABOVEfBELOWwHREE DOTS ABOVEfBELOWqOBLIQUE LINE ABOVEfBELOWsMUSICfBARREKH"]⟩,
  ⟨0x74D, ["SYRIAC LETTER SOGDIAN ZHAINfKHAPHfFEyARABIC LETTER BEH WITH THREE DOTS HORIZONTALLY BE",
     "LOWzeDOT BELOW AND THREE DOTS ABOVEzfTHREE DOTS POINTING UPWARDS BELOWa AND TWO DOTS ABOVEzz",
     "bWO DOTS BELOW AND DOT ABOVEzdINVERTED SMALL V BELOWwSMALL VqHAH WITH TWO DOTS ABOVEnHREE DO",
     "TS POINTING UPWARDS BELOWzrDAL WITH TWO DOTS VERTICALLY BELOW AND SMALL TAHzoINVERTED SMALL ",
     "V BELOWzgREH WITH STROKEpSEEN WITH FOUR DOTS ABOVEzAIN WITH TWO DOTS ABOVEnHREE DOTS POINTIN",
     "G DOWNWARDS ABOVEzjWO DOTS VERTICALLY ABOVEzjFEH WITH TWO DOTS BELOWnHREE DOTS POINTING UPWA",
     "RDS BELOWzrKEHEH WITH DOT ABOVEjTHREE DOTS ABOVEfPOINTING UPWARDS BELOWztMEEM WITH DOT ABOVE",
     "fBELOWtNOON WITH TWO DOTS BELOWoSMALL TAHdVrLAM WITH BARmREH WITH TWO DOTS VERTICALLY ABOVEz",
     "HAMZA ABOVEuSEEN WITH TWO DOTS VERTICALLY ABOVEzkHAH WITH SMALL ARABIC LETTER TAH BELOWfAND ",
     "TWO DOTSzuSEEN WITH SMALL ARABIC LETTER TAH AND TWO DOTSzvREH WITH SMALL ARABIC LETTER TAH A",
     "ND TWO DOTSzuHAH WITH SMALL ARABIC LETTER TAH ABOVEznALEF WITH EXTENDED ARABIC-INDIC DIGIT T",
     "WO ABOVEiHREE ABOVEzyFARSI YEH WITH EXTENDED ARABIC-INDIC DIGIT TWO ABOVEiHREE ABOVElFOUR BE",
     "LOWzzdWAW WITH EXTENDED ARABIC-INDIC DIGIT TWO ABOVEiHREE ABOVEzxYEH BARREE WITH EXTENDED AR",
     "ABIC-INDIC DIGIT TWO ABOVEiHREE ABOVEzzfHAH WITH EXTENDED ARABIC-INDIC DIGIT FOUR BELOWzwSEE",
     "N WITH EXTENDED ARABIC-INDIC DIGIT FOUR ABOVEznINVERTED VuKAF WITH TWO DOTS ABOVEzmTHAANA LE",
     "TTER HAAdSHAVIYANIjNOONUfRAAdBAAdLHAVIYANIjKAAFUfALIFUfVAAVUfMEEMUfFAAFUfDHAALUgTHAAeLAAMUfG",
     "AAFUeNAVIYANIjSEENUfDAVIYANIiZAVIYANIiTAVIYANIiYAAdPAVIYANIiJAVIYANIiCHAVIYANIjTTAAeHHAAeKHA",
     "AeTHAALUgZAAdSHEENUfAADHUgDAADHUgTOcZOcAINUeGHAINUgQAAFUfWAAVUmABAFILIgABAAFILIjIBIFILIhEEBE",
     "EFILIjUBUFILIhOOBOOFILIjEBEFILIgYBEYFILIjOBOFILIgABOAFILIjSUKUNfLETTER NAA"]⟩,
  ⟨0x7C0, ["NKO DIGIT ZEROeONEdTWOcHREEfFOURdIVEeSIXcEVENfEIGHTfNINEkLETTER AbEEcIbEbUbOOcObDAGBAS",
     "INNAkNbBAcPAcTAcJAcCHAdDAcRAbRAdSAcGBAdFAcKAcLAcNA WOLOSOjMAcNYAcAcHAcWAcYAcNYA WOLOSOkJONA ",
     "JAcCHAdRAoCOMBINING SHORT HIGH TONEjLOW TONEiRISING TONErLONG DESCENDING TONEpHIGH TONEjLOW ",
     "TONEiRISING TONEqNASALIZATION MARKrDOUBLE DOT ABOVEzbHIGH TONE APOSTROPHEuLOW TONE APOSTROPH",
     "EtSYMBOL OO DENNENjGBAKURUNENrCOMMAfEXCLAMATION MARKqLAJANYALAN"]⟩,
  ⟨0x7FD, ["NKO DANTAYALANjOROME SIGNlTAMAN SIGNoSAMARITAN LETTER ALAFeBITdGAMANfDALATfIYcBAAdZENd",
     "ITcTITdYUTdKAAFeLABATfMIMdNUNdSINGAAThINcFIcTSAADIYhQUFdRISHeSHANeTAAFlMARK INa-ALAFhOCCLUSI",
     "ONjDAGESHkODIFIER LETTER EPENTHETIC YUTzeARK EPENTHETIC YUTtVOWEL SIGN LONG EgEbOVERLONG AAl",
     "LONG AAhAAcOVERLONG AkLONG AgAmMODIFIER LETTER SHORT AxVOWEL SIGN SHORT AhLONG UgUmMODIFIER ",
     "LETTER IrVOWEL SIGN LONG IgIbObSUKUNqMARK NEQUDAA"]⟩,
  ⟨0x830, ["SAMARITAN PUNCTUATION NEQUDAAhAFSAAQfNGEDfBAUdATMAAUgSHIYYAALAAwABBREVIATION MARKrPUNC",
     "TUATION MELODIC QITSAnZIQAAfQITSAfZAEFeTURUeARKAANUhSOF MASHFAATmANNAAU"]⟩,
  ⟨0x840, ["MANDAIC LETTER HALQAfABbGbDbHcUSHENNAhAZcITcATTcKSAdKbLbMbNbScINcAPbSZcQbRbSHcTcDUSHEN",
     "NAiKADdAINkAFFRICATION MARKqVOCALIZATION MARKrGEMINATION MARK"]⟩,
  ⟨0x85E, ["MANDAIC PUNCTUATION"]⟩,
  ⟨0x860, ["SYRIAC LETTER MALAYALAM NGAdJAcNYAdTTAdNNAbNAeBHAdRAcLLAbLAeSSA"]⟩,
  ⟨0x870, ["ARABIC LETTER ALEF WITH ATTACHED FATHAfTOP RIGHT FATHAyRIGHT MIDDLE STROKEtLEFT MIDDLE",
     " STROKEsATTACHED KASRAfBOTTOM RIGHT KASRAsROUND DOT ABOVEoIGHT ROUND DOTpLEFT ROUND DOToROUN",
     "D DOT BELOWyDOT ABOVEjATTACHED TOP RIGHT FATHA AND DOT ABOVEznRIGHT MIDDLE STROKE AND DOT AB",
     "OVEziATTACHED BOTTOM RIGHT KASRA AND DOT ABOVEzhTOP RIGHT FATHA AND LEFT RINGznRIGHT MIDDLE ",
     "STROKE AND LEFT RINGziATTACHED BOTTOM RIGHT KASRA AND LEFT RINGzhRIGHT HAMZAlLEFT HAMZAzlTAT",
     "WEEL WITH OVERSTRUCK HAMZAfWAWoTWO DOTS BELOWzcLETTER THIN YEHpBASELINE ROUND DOTsRAISED ROU",
     "ND DOTqLETTER NOON WITH INVERTED SMALL VzbHAH WITH INVERTED SMALL V BELOWzgTAH WITH DOT BELO",
     "WjTHREE DOTS BELOWzKEHEH WITH TWO DOTS VERTICALLY BELOWzsVERTICAL TAIL"]⟩,
  ⟨0x890, ["ARABIC POUND MARK ABOVEpIASTRE MARK ABOVE"]⟩,
  ⟨0x898, ["ARABIC SMALL HIGH WORD AL-JUZqLOW WORD ISHMAAMgMAALAgTASHEELwMADDA WAAJIBmSUPERSCRIPT ",
     "ALEF MOKHASSASzbDOUBLED MADDAnHALF MADDA OVER MADDAvLETTER BEH WITH SMALL V BELOWnHAMZA ABOV",
     "EuJEEM WITH TWO DOTS ABOVEyTAH WITH TWO DOTS ABOVExFEH WITH DOT BELOW AND THREE DOTS ABOVEzo",
     "QAF WITH DOT BELOWsLAM WITH DOUBLE BARtMEEM WITH THREE DOTS ABOVEzbYEH WITH TWO DOTS BELOW A",
     "ND HAMZA ABOVElDOT ABOVEzmREH WITH LOOPnWAW WITH DOT WITHINtROHINGYA YEHmLOW ALEFiDAL WITH T",
     "HREE DOTS BELOWzSAD WITH THREE DOTS BELOWzGAF WITH INVERTED STROKEySTRAIGHT WAWmZAIN WITH IN",
     "VERTED V ABOVEzbAIN WITH THREE DOTS BELOWzKAF WITH DOT BELOWsQAF WITH DOT BELOW AND NO DOTS ",
     "ABOVEzlBEH WITH SMALL MEEM ABOVEzPEH WITH SMALL MEEM ABOVEzTEH WITH SMALL TEH ABOVEyREH WITH",
     " SMALL NOON ABOVEzYEH WITH TWO DOTS BELOW AND SMALL NOON ABOVEztAFRICAN FEHdQAFdNOONmPEH WIT",
     "H SMALL VqTEH WITH SMALL VpTEH WITH SMALL VqCHEH WITH SMALL VsKEHEH WITH SMALL VsGHAIN WITH ",
     "THREE DOTS ABOVEzcAFRICAN QAF WITH THREE DOTS ABOVEziJEEM WITH THREE DOTS ABOVEfBELOWzbLAM W",
     "ITH SMALL ARABIC LETTER TAH ABOVEznGRAFlSMALL FARSI YEHjHIGH FARSI YEHjYEH BARREE WITH TWO D",
     "OTS BELOWzfWORD SAHiZAHoLARGE ROUND DOT ABOVEfBELOWvSUKUN BELOWlLARGE CIRCLE BELOWmROUND DOT",
     " INSIDE CIRCLE BELOWzkSMALL LOW WAWhHIGH WORD AR-RUBlSADdAINdQAFdNOON WITH KASRAuLOW NOON WI",
     "TH KASRAtHIGH WORD ATH-THALATHAlS-SAJDAhN-NISFhSAKTAfQIFdWAQFAkFOOTNOTE MARKERpSIGN SAFHAvDI",
     "SPUTED END OF AYAHuTURNED DAMMA BELOWsCURLY FATHAfDAMMAfKASRAfFATHATANiDAMMATANiKASRATANoTON",
     "E ONE DOT ABOVEnTWO DOTS ABOVEoLOOP ABOVEkONE DOT BELOWnTWO DOTS BELOWoLOOP BELOWpOPEN FATHA",
     "TANiDAMMATANiKASRATANnSMALL HIGH WAWoFATHA WITH RINGeDOT ABOVEuKASRA WITH DOT BELOWuLEFT ARR",
     "OWHEAD ABOVEuRIGHT ARROWHEAD ABOVEvLEFT ARROWHEAD BELOWuRIGHT ARROWHEAD BELOWvDOUBLE RIGHT A",
     "RROWHEAD ABOVEa WITH DOTzmRIGHT ARROWHEAD ABOVE WITH DOTzfDAMMA WITH DOToMARK SIDEWAYS NOON ",
     "GHUNNAzhDEVANAGARI SIGN INVERTED CANDRABINDUuCANDRABINDUlANUSVARAiVISARGAmLETTER SHORT AhAaA",
     "cIaIcUaUcVOCALIC RbLjCANDRA EiSHORT EhEbAIcCANDRA OiSHORT OhObAUcKAbHAdGAbHAdNGAdCAbHAdJAbHA",
     "dNYAdTTAbHAeDDAbHAeNNAdTAbHAdDAbHAdNAbNNAePAbHAdBAbHAdMAcYAcRAbRAdLAbLAbLAeVAcSHAcSAcAcHAjVO",
     "WEL SIGN OEbOEoSIGN NUKTAfAVAGRAHAnVOWEL SIGN AAcIaIcUaUcVOCALIC RaRkCANDRA EiSHORT EhEbAIcC",
     "ANDRA OiSHORT OhObAUnSIGN VIRAMAlVOWEL SIGN PRISHTHAMATRA EpAWnOMcSTRESS SIGN UDATTAgANUDATT",
     "AuGRAVE ACCENTmACUTE ACCENTmVOWEL SIGN CANDRA LONG EnUEbUEoLETTER QAcKHHAeGHHAeZAcDDDHAfRHAd",
     "FAcYYAdVOCALIC RRcLLrVOWEL SIGN VOCALIC LaLvDANDAeOUBLE DANDAlIGIT ZEROeONEdTWOcHREEfFOURdIV",
     "EeSIXcEVENfEIGHTfNINEkABBREVIATION SIGNrSIGN HIGH SPACING DOTvLETTER CANDRA AiOEbOEdAWcUEbUE",
     "dMARWARI DDAlZHAdHEAVY YAiGGAdJJAdGLOTTAL STOPmDDDAeBBAvBENGALI ANJIeSIGN CANDRABINDUlANUSVA",
     "RAiVISARGA"]⟩,
  ⟨0x985, ["BENGALI LETTER AaAcIaIcUaUcVOCALIC RbL"]⟩,
  ⟨0x98F, ["BENGALI LETTER EbAI"]⟩,
  ⟨0x993, ["BENGALI LETTER ObAUcKAbHAdGAbHAdNGAdCAbHAdJAbHAdNYAdTTAbHAeDDAbHAeNNAdTAbHAdDAbHAdNA"]⟩,
  ⟨0x9AA, ["BENGALI LETTER PAbHAdBAbHAdMAcYAcRA"]⟩,
  ⟨0x9B2, ["BENGALI LETTER LA"]⟩,
  ⟨0x9B6, ["BENGALI LETTER SHAcSAcAcHA"]⟩,
  ⟨0x9BC, ["BENGALI SIGN NUKTAfAVAGRAHAnVOWEL SIGN AAcIaIcUaUcVOCALIC RaR"]⟩,
  ⟨0x9C7, ["BENGALI VOWEL SIGN EbAI"]⟩,
  ⟨0x9CB, ["BENGALI VOWEL SIGN ObAUnSIGN VIRAMAlLETTER KHANDA TA"]⟩,
  ⟨0x9D7, ["BENGALI AU LENGTH MARK"]⟩,
  ⟨0x9DC, ["BENGALI LETTER RRAcHA"]⟩,
  ⟨0x9DF, ["BENGALI LETTER YYAdVOCALIC RRcLLrVOWEL SIGN VOCALIC LaL"]⟩,
  ⟨0x9E6, ["BENGALI DIGIT ZEROeONEdTWOcHREEfFOURdIVEeSIXcEVENfEIGHTfNINEkLETTER RA WITH MIDDLE DIA",
     "GONALpLOWER DIAGONALzeRUPEE MARKeSIGNkCURRENCY NUMERATOR ONEdTWOcHREEfFOUReONE LESS THAN THE",
     " DENOMINATORzoDENOMINATOR SIXTEENzdISSHARgGANDA MARKkLETTER VEDIC ANUSVARAvABBREVIATION SIGN",
     "rSANDHI MARK"]⟩,
  ⟨0xA01, ["GURMUKHI SIGN ADAK BINDIkBINDIfVISARGA"]⟩,
  ⟨0xA05, ["GURMUKHI LETTER AaAcIaIcUaU"]⟩,
  ⟨0xA0F, ["GURMUKHI LETTER EEcAI"]⟩,
  ⟨0xA13, ["GURMUKHI LETTER OOcAUcKAbHAdGAbHAdNGAdCAbHAdJAbHAdNYAdTTAbHAeDDAbHAeNNAdTAbHAdDAbHAdNA"]⟩,
  ⟨0xA2A, ["GURMUKHI LETTER PAbHAdBAbHAdMAcYAcRA"]⟩,
  ⟨0xA32, ["GURMUKHI LETTER LAbLA"]⟩,
  ⟨0xA35, ["GURMUKHI LETTER VAcSHA"]⟩,
  ⟨0xA38, ["GURMUKHI LETTER SAcHA"]⟩,
  ⟨0xA3C, ["GURMUKHI SIGN NUKTA"]⟩,
  ⟨0xA3E, ["GURMUKHI VOWEL SIGN AAcIaIcUaU"]⟩,
  ⟨0xA47, ["GURMUKHI VOWEL SIGN EEcAI"]⟩,
  ⟨0xA4B, ["GURMUKHI VOWEL SIGN OOcAUnSIGN VIRAMA"]⟩,
  ⟨0xA51, ["GURMUKHI SIGN UDAAT"]⟩,
  ⟨0xA59, ["GURMUKHI LETTER KHHAeGHHAeZAcRRA"]⟩,
  ⟨0xA5E, ["GURMUKHI LETTER FA"]⟩,
  ⟨0xA66, ["GURMUKHI DIGIT ZEROeONEdTWOcHREEfFOURdIVEeSIXcEVENfEIGHTfNINEkTIPPIfADDAKfIRIdURAdEK O",
     "NKARiSIGN YAKASHlABBREVIATION SIGN"]⟩,
  ⟨0xA81, ["GUJARATI SIGN CANDRABINDUlANUSVARAiVISARGA"]⟩,
  ⟨0xA85, ["GUJARATI LETTER AaAcIaIcUaUcVOCALIC RbLqVOWEL CANDRA E"]⟩,
  ⟨0xA8F, ["GUJARATI LETTER EbAIjVOWEL CANDRA O"]⟩,
  ⟨0xA93, ["GUJARATI LETTER ObAUcKAbHAdGAbHAdNGAdCAbHAdJAbHAdNYAdTTAbHAeDDAbHAeNNAdTAbHAdDAbHAdNA"]⟩,
  ⟨0xAAA, ["GUJARATI LETTER PAbHAdBAbHAdMAcYAcRA"]⟩,
  ⟨0xAB2, ["GUJARATI LETTER LAbLA"]⟩,
  ⟨0xAB5, ["GUJARATI LETTER VAcSHAcSAcAcHA"]⟩,
  ⟨0xABC, ["GUJARATI SIGN NUKTAfAVAGRAHAnVOWEL SIGN AAcIaIcUaUcVOCALIC RaRkCANDRA E"]⟩,
  ⟨0xAC7, ["GUJARATI VOWEL SIGN EbAIcCANDRA O"]⟩,
  ⟨0xACB, ["GUJARATI VOWEL SIGN ObAUnSIGN VIRAMA"]⟩,
  ⟨0xAD0, ["GUJARATI OM"]⟩,
  ⟨0xAE0, ["GUJARATI LETTER VOCALIC RRcLLrVOWEL SIGN VOCALIC LaL"]⟩,
  ⟨0xAE6, ["GUJARATI DIGIT ZEROeONEdTWOcHREEfFOURdIVEeSIXcEVENfEIGHTfNINEkABBREVIATION SIGNrRUPEE ",
     "SIGN"]⟩,
  ⟨0xAF9, ["GUJARATI LETTER ZHAkSIGN SUKUNeHADDAgMADDAHgTHREE-DOT NUKTA ABOVEvCIRCLE NUKTA ABOVEsT",
     "WO-CIRCLE NUKTA ABOVE"]⟩,
  ⟨0xB01, ["ORIYA SIGN CANDRABINDUlANUSVARAiVISARGA"]⟩,
  ⟨0xB05, ["ORIYA LETTER AaAcIaIcUaUcVOCALIC RbL"]⟩,
  ⟨0xB0F, ["ORIYA LETTER EbAI"]⟩,
  ⟨0xB13, ["ORIYA LETTER ObAUcKAbHAdGAbHAdNGAdCAbHAdJAbHAdNYAdTTAbHAeDDAbHAeNNAdTAbHAdDAbHAdNA"]⟩,
  ⟨0xB2A, ["ORIYA LETTER PAbHAdBAbHAdMAcYAcRA"]⟩,
  ⟨0xB32, ["ORIYA LETTER LAbLA"]⟩,
  ⟨0xB35, ["ORIYA LETTER VAcSHAcSAcAcHA"]⟩,
  ⟨0xB3C, ["ORIYA SIGN NUKTAfAVAGRAHAnVOWEL SIGN AAcIaIcUaUcVOCALIC RaR"]⟩,
  ⟨0xB47, ["ORIYA VOWEL SIGN EbAI"]⟩,
  ⟨0xB4B, ["ORIYA VOWEL SIGN ObAUnSIGN VIRAMA"]⟩,
  ⟨0xB55, ["ORIYA SIGN OVERLINEnAI LENGTH MARKnU LENGTH MARK"]⟩,
  ⟨0xB5C, ["ORIYA LETTER RRAcHA"]⟩,
  ⟨0xB5F, ["ORIYA LETTER YYAdVOCALIC RRcLLrVOWEL SIGN VOCALIC LaL"]⟩,
  ⟨0xB66, ["ORIYA DIGIT ZEROeONEdTWOcHREEfFOURdIVEeSIXcEVENfEIGHTfNINEkISSHARgLETTER WAjFRACTION O",
     "NE QUARTERhHALFiTHREE QUARTERSoONE SIXTEENTHjEIGHTHkTHREE SIXTEENTHS"]⟩,
  ⟨0xB82, ["TAMIL SIGN ANUSVARAiVISARGA"]⟩,
  ⟨0xB85, ["TAMIL LETTER AaAcIaIcUaU"]⟩,
  ⟨0xB8E, ["TAMIL LETTER EaEcAI"]⟩,
  ⟨0xB92, ["TAMIL LETTER OaOcAUcKA"]⟩,
  ⟨0xB99, ["TAMIL LETTER NGAdCA"]⟩,
  ⟨0xB9C, ["TAMIL LETTER JA"]⟩,
  ⟨0xB9E, ["TAMIL LETTER NYAdTTA"]⟩,
  ⟨0xBA3, ["TAMIL LETTER NNAdTA"]⟩,
  ⟨0xBA8, ["TAMIL LETTER NAbNNAePA"]⟩,
  ⟨0xBAE, ["TAMIL LETTER MAcYAcRAbRAdLAbLAbLAeVAcSHAcSAcAcHA"]⟩,
  ⟨0xBBE, ["TAMIL VOWEL SIGN AAcIaIcUaU"]⟩,
  ⟨0xBC6, ["TAMIL VOWEL SIGN EaEcAI"]⟩,
  ⟨0xBCA, ["TAMIL VOWEL SIGN OaOcAUnSIGN VIRAMA"]⟩,
  ⟨0xBD0, ["TAMIL OM"]⟩,
  ⟨0xBD7, ["TAMIL AU LENGTH MARK"]⟩,
  ⟨0xBE6, ["TAMIL DIGIT ZEROeONEdTWOcHREEfFOURdIVEeSIXcEVENfEIGHTfNINEkNUMBER TENdONE HUNDREDhTHOU",
     "SANDtDAY SIGNiMONTH SIGNkYEAR SIGNjDEBIT SIGNkCREDIT SIGNlAS ABOVE SIGNnRUPEE SIGNkNUMBER SI",
     "GN"]⟩,
  ⟨0xC00, ["TELUGU SIGN COMBINING CANDRABINDU ABOVEzbANDRABINDUlANUSVARAiVISARGAhCOMBINING ANUSVAR",
     "A ABOVEzeLETTER AaAcIaIcUaUcVOCALIC RbL"]⟩,
  ⟨0xC0E, ["TELUGU LETTER EaEcAI"]⟩,
  ⟨0xC12, ["TELUGU LETTER OaOcAUcKAbHAdGAbHAdNGAdCAbHAdJAbHAdNYAdTTAbHAeDDAbHAeNNAdTAbHAdDAbHAdNA"]⟩,
  ⟨0xC2A, ["TELUGU LETTER PAbHAdBAbHAdMAcYAcRAbRAdLAbLAbLAeVAcSHAcSAcAcHA"]⟩,
  ⟨0xC3C, ["TELUGU SIGN NUKTAfAVAGRAHAnVOWEL SIGN AAcIaIcUaUcVOCALIC RaR"]⟩,
  ⟨0xC46, ["TELUGU VOWEL SIGN EaEcAI"]⟩,
  ⟨0xC4A, ["TELUGU VOWEL SIGN OaOcAUnSIGN VIRAMA"]⟩,
  ⟨0xC55, ["TELUGU LENGTH MARKlAI LENGTH MARK"]⟩,
  ⟨0xC58, ["TELUGU LETTER TSAdDZAdRRRA"]⟩,
  ⟨0xC5D, ["TELUGU LETTER NAKAARA POLLU"]⟩,
  ⟨0xC60, ["TELUGU LETTER VOCALIC RRcLLrVOWEL SIGN VOCALIC LaL"]⟩,
  ⟨0xC66, ["TELUGU DIGIT ZEROeONEdTWOcHREEfFOURdIVEeSIXcEVENfEIGHTfNINE"]⟩,
  ⟨0xC77, ["TELUGU SIGN SIDDHAMmFRACTION DIGIT ZERO FOR ODD POWERS OF FOURzcONE FOR ODD POWERS OF ",
     "FOURzbTWO FOR ODD POWERS OF FOURzHREE FOR ODD POWERS OF FOURzdONE FOR EVEN POWERS OF FOURzcT",
     "WO FOR EVEN POWERS OF FOURzbHREE FOR EVEN POWERS OF FOURztSIGN TUUMUrKANNADA SIGN SPACING CA",
     "NDRABINDUtCANDRABINDUlANUSVARAiVISARGAhSIDDHAMmLETTER AaAcIaIcUaUcVOCALIC RbL"]⟩,
  ⟨0xC8E, ["KANNADA LETTER EaEcAI"]⟩,
  ⟨0xC92, ["KANNADA LETTER OaOcAUcKAbHAdGAbHAdNGAdCAbHAdJAbHAdNYAdTTAbHAeDDAbHAeNNAdTAbHAdDAbHAdNA"]⟩,
  ⟨0xCAA, ["KANNADA LETTER PAbHAdBAbHAdMAcYAcRAbRAdLAbLA"]⟩,
  ⟨0xCB5, ["KANNADA LETTER VAcSHAcSAcAcHA"]⟩,
  ⟨0xCBC, ["KANNADA SIGN NUKTAfAVAGRAHAnVOWEL SIGN AAcIaIcUaUcVOCALIC RaR"]⟩,
  ⟨0xCC6, ["KANNADA VOWEL SIGN EaEcAI"]⟩,
  ⟨0xCCA, ["KANNADA VOWEL SIGN OaOcAUnSIGN VIRAMA"]⟩,
  ⟨0xCD5, ["KANNADA LENGTH MARKlAI LENGTH MARK"]⟩,
  ⟨0xCDD, ["KANNADA LETTER NAKAARA POLLUnFA"]⟩,
  ⟨0xCE0, ["KANNADA LETTER VOCALIC RRcLLrVOWEL SIGN VOCALIC LaL"]⟩,
  ⟨0xCE6, ["KANNADA DIGIT ZEROeONEdTWOcHREEfFOURdIVEeSIXcEVENfEIGHTfNINE"]⟩,
  ⟨0xCF1, ["KANNADA SIGN JIHVAMULIYAlUPADHMANIYA"]⟩,
  ⟨0xD00, ["MALAYALAM SIGN COMBINING ANUSVARA ABOVExANDRABINDUlANUSVARAiVISARGAmLETTER VEDIC ANUSV",
     "ARAoAaAcIaIcUaUcVOCALIC RbL"]⟩,
  ⟨0xD0E, ["MALAYALAM LETTER EaEcAI"]⟩,
  ⟨0xD12, ["MALAYALAM LETTER OaOcAUcKAbHAdGAbHAdNGAdCAbHAdJAbHAdNYAdTTAbHAeDDAbHAeNNAdTAbHAdDAbHAd",
     "NAbNNAePAbHAdBAbHAdMAcYAcRAbRAdLAbLAbLAeVAcSHAcSAcAcHAcTTTAlSIGN VERTICAL BAR VIRAMAtCIRCULA",
     "R VIRAMApAVAGRAHAnVOWEL SIGN AAcIaIcUaUcVOCALIC RaR"]⟩,
  ⟨0xD46, ["MALAYALAM VOWEL SIGN EaEcAI"]⟩,
  ⟨0xD4A, ["MALAYALAM VOWEL SIGN OaOcAUnSIGN VIRAMAlLETTER DOT REPHpSIGN PARA"]⟩,
  ⟨0xD54, ["MALAYALAM LETTER CHILLU MbYbLLLrAU LENGTH MARKoFRACTION ONE ONE-HUNDRED-AND-SIXTIETHyF",
     "ORTIETHmTHREE EIGHTIETHSqONE TWENTIETHiENTHjTHREE TWENTIETHSqONE FIFTHsLETTER ARCHAIC IIkVOC",
     "ALIC RRcLLrVOWEL SIGN VOCALIC LaL"]⟩,
  ⟨0xD66, ["MALAYALAM DIGIT ZEROeONEdTWOcHREEfFOURdIVEeSIXcEVENfEIGHTfNINEkNUMBER TENdONE HUNDREDh",
     "THOUSANDtFRACTION ONE QUARTERhHALFiTHREE QUARTERSoONE SIXTEENTHjEIGHTHkTHREE SIXTEENTHSzDATE",
     " MARKjLETTER CHILLU NNcNbRRcLaLcK"]⟩,
  ⟨0xD81, ["SINHALA SIGN CANDRABINDUlANUSVARAYAkVISARGAYA"]⟩,
  ⟨0xD85, ["SINHALA LETTER AYANNAfAYANNAgEYANNAfEYANNAiIYANNAfIYANNAhUYANNAfUYANNAhIRUYANNAfUYANNA",
     "iLUYANNAfUYANNAjEYANNAfEYANNAhAIYANNAhOYANNAfOYANNAhAUYANNA"]⟩,
  ⟨0xD9A, ["SINHALA LETTER ALPAPRAANA KAYANNAsMAHAAPRAANA KAYANNAtALPAPRAANA GAYANNAsMAHAAPRAANA G",
     "AYANNAtKANTAJA NAASIKYAYAsSANYAKA GAYANNApALPAPRAANA CAYANNAsMAHAAPRAANA CAYANNAtALPAPRAANA ",
     "JAYANNAsMAHAAPRAANA JAYANNAtTAALUJA NAASIKYAYAkSANYOOGA NAAKSIKYAYAzdSANYAKA JAYANNApALPAPRA",
     "ANA TTAYANNAtMAHAAPRAANA TTAYANNAuALPAPRAANA DDAYANNAtMAHAAPRAANA DDAYANNAtUURDHAJA NAYANNAr",
     "SANYAKA DDAYANNAqALPAPRAANA TAYANNAsMAHAAPRAANA TAYANNAtALPAPRAANA DAYANNAsMAHAAPRAANA DAYAN",
     "NAtDANTAJA NAYANNA"]⟩,
  ⟨0xDB3, ["SINHALA LETTER SANYAKA DAYANNApALPAPRAANA PAYANNAsMAHAAPRAANA PAYANNAtALPAPRAANA BAYAN",
     "NAsMAHAAPRAANA BAYANNArYANNAhAMBA BAYANNAmYAYANNAhRAYANNA"]⟩,
  ⟨0xDBD, ["SINHALA LETTER DANTAJA LAYANNA"]⟩,
  ⟨0xDC0, ["SINHALA LETTER VAYANNAhTAALUJA SAYANNApMUURDHAJA SAYANNArDANTAJA SAYANNApHAYANNAhMUURD",
     "HAJA LAYANNArFAYANNA"]⟩,
  ⟨0xDCA, ["SINHALA SIGN AL-LAKUNA"]⟩,
  ⟨0xDCF, ["SINHALA VOWEL SIGN AELA-PILLAkKETTI AEDA-PILLAqDIGA AEDA-PILLApKETTI IS-PILLAoDIGA IS-",
     "PILLAnKETTI PAA-PILLA"]⟩,
  ⟨0xDD6, ["SINHALA VOWEL SIGN DIGA PAA-PILLA"]⟩,
  ⟨0xDD8, ["SINHALA VOWEL SIGN GAETTA-PILLAmKOMBUVAhDIGA KOMBUVAmKOMBU DEKAfVA HAA AELA-PILLAkDIGA",
     " AELA-PILLApGAYANUKITTAxGAYANUKITTA"]⟩,
  ⟨0xDE6, ["SINHALA LITH DIGIT ZEROeONEdTWOcHREEfFOURdIVEeSIXcEVENfEIGHTfNINE"]⟩,
  ⟨0xDF2, ["SINHALA VOWEL SIGN DIGA GAETTA-PILLAkYANUKITTAzcPUNCTUATION KUNDDALIYA"]⟩,
  ⟨0xE01, ["THAI CHARACTER KO KAIfHO KHAIcUATdWAIdONeRAKHANGlNGO NGUhCHO CHANcINGdANGjSO SOfCHO CH",
     "OEiYO YINGhDO CHADAiTO PATAKhHO THANeNANGMONTHOkPHUTHAOlNO NENgDO DEKgTO TAOfHO THUNGdAHANeO",
     "NGjNO NUfBO BAIMAIjPO PLAfHO PHUNGjFO FAfPHO PHANiFO FANgPHO SAMPHAOlMO MAfYO YAKgRO RUAfUcL",
     "O LINGgUcWO WAENhSO SALAeRUSIeSUAgHO HIPgLO CHULAiO ANGfHO NOKHUKjPAIYANNOIjSARA AgMAI HAN-A",
     "KATmSARA AAbMcIaIcUEaEdUaUhPHINTHU"]⟩,
  ⟨0xE3F, ["THAI CURRENCY SYMBOL BAHTtHARACTER SARA EbAEcObAI MAIMUANdALAIqLAKKHANGYAOlMAIYAMOKfTA",
     "IKHUg EKcTHOcRIdCHATTAWAmTHANTHAKHATlNIKHAHITiYAMAKKANiFONGMANrDIGIT ZEROeONEdTWOcHREEfFOURd",
     "IVEeSIXcEVENfEIGHTfNINEkCHARACTER ANGKHANKHUkKHOMUT"]⟩,
  ⟨0xE81, ["LAO LETTER KObHO SUNG"]⟩,
  ⟨0xE84, ["LAO LETTER KHO TAM"]⟩,
  ⟨0xE86, ["LAO LETTER PALI GHAiNGOdCOcPALI CHAiSO TAM"]⟩,
  ⟨0xE8C, ["LAO LETTER PALI JHAiNYOdPALI NYAdTTAbHAeDDAbHAeNNAiDOcTObHO SUNGeTAMhPALI DHAiNOcBOcPO",
     "bHO SUNGiFO TAMgPHO TAMhFO SUNGhPALI BHAiMOcYOcLO LING"]⟩,
  ⟨0xEA5, ["LAO LETTER LO LOOT"]⟩,
  ⟨0xEA7, ["LAO LETTER WOcSANSKRIT SHAcSAlO SUNGhHO SUNGhPALI LLAiObHO TAMnELLIPSISiVOWEL SIGN AbM",
     "AI KANhAAbMcIaIcYaYcUaUnSIGN PALI VIRAMAqVOWEL SIGN MAI KONsSEMIVOWEL SIGN LOcNYO"]⟩,
  ⟨0xEC0, ["LAO VOWEL SIGN EaIcObAYbI"]⟩,
  ⟨0xEC6, ["LAO KO LA"]⟩,
  ⟨0xEC8, ["LAO TONE MAI EKcTHOcIcCATAWApCANCELLATION MARKrNIGGAHITA"]⟩,
  ⟨0xED0, ["LAO DIGIT ZEROeONEdTWOcHREEfFOURdIVEeSIXcEVENfEIGHTfNINE"]⟩,
  ⟨0xEDC, ["LAO HO NOcMOfLETTER KHMU GOcNYO"]⟩,
  ⟨0xF00, ["TIBETAN SYLLABLE OMlMARK GTER YIG MGO TRUNCATED Al-UM RNAM BCAD MAmGTER TSHEG MAzfINIT",
     "IAL YIG MGO MDUN MAxCLOSING YIG MGO SGAB MAwARET YIG MGO PHUR SHAD MAzbYIG MGO TSHEG SHAD MA",
     "vSBRUL SHADkBSKUR YIG MGOmKA- SHOG YIG MGOrINTERSYLLABIC TSHEGtDELIMITER TSHEG BSTARvSHADeNY",
     "IS SHADjTSHEG SHADkNYIS TSHEG SHADpRIN CHEN SPUNGS SHADtGYA GRAM SHADoCARET -DZUD RTAGS ME L",
     "ONG CANzeGTER TSHEGpLOGOTYPE SIGN CHAD RTAGSkLHAG RTAGSyASTROLOGICAL SIGN SGRA GCAN -CHAR RT",
     "AGSv-KHYUD PAjSDONG TSHUGSzfSIGN RDEL DKAR GCIGdNYISeSUMjNAG GCIGdNYISjDKAR RDEL NAGxDIGIT Z",
     "EROeONEdTWOcHREEfFOURdIVEeSIXcEVENfEIGHTfNINEeHALF ONEdTWOcHREEfFOURdIVEeSIXcEVENfEIGHTfNINE",
     "eZEROpMARK BSDUS RTAGSlNGAS BZUNG NYI ZLAsCARET -DZUD RTAGS BZHI MIG CANzfNGAS BZUNG SGOR RT",
     "AGSvCHE MGOhTSA -PHRUjGUG RTAGS GYONcASoANG KHANG GYONcAStSIGN YAR TSHESjMAR TSHESoLETTER KA",
     "bHAdGAbHAdNGAdCAbHAdJA"]⟩,
  ⟨0xF49, ["TIBETAN LETTER NYAdTTAbHAeDDAbHAeNNAdTAbHAdDAbHAdNAcPAbHAdBAbHAdMAcTSAbHAeDZAbHAeWAcZH",
     "AcAc-AcYAcRAcLAcSHAcSAcAcHAcAbKSSAeFIXED-FORM RAnKKAdRRA"]⟩,
  ⟨0xF71, ["TIBETAN VOWEL SIGN AAcIaIcUaUcVOCALIC RaRcLaLkEaEcOaOnSIGN RJES SU NGA ROnNAM BCADoVOW",
     "EL SIGN REVERSED IaIwSIGN NYI ZLA NAA DAoSNA LDANnMARK HALANTAhPALUTAlSIGN LCI RTAGSjYANG RT",
     "AGSkLCE TSA CANlMCHU CANiGRU CAN RGYINGSlMED RGYINGSpINVERTED MCHU CANvUBJOINED SIGN LCE TSA",
     " CANlMCHU CANiINVERTED MCHU CANwLETTER KAbHAdGAbHAdNGAdCAbHAdJA"]⟩,
  ⟨0xF99, ["TIBETAN SUBJOINED LETTER NYAdTTAbHAeDDAbHAeNNAdTAbHAdDAbHAdNAcPAbHAdBAbHAdMAcTSAbHAeDZ",
     "AbHAeWAcZHAcAc-AcYAcRAcLAcSHAcSAcAcHAcAbKSSAeFIXED-FORM WAcYAcRA"]⟩,
  ⟨0xFBE, ["TIBETAN KU RU KHAa BZHI MIG CANwCANTILLATION SIGN HEAVY BEATkLIGHT BEATkCANG TE-UjSBUB",
     " -CHALzdSYMBOL DRIL BUhRDO RJEhPADMA GDANkRDO RJE RGYA GRAMrPHUR PAhNOR BUa NYIS -KHYILlGSUM",
     " -KHYILlBZHI -KHYIL"]⟩,
  ⟨0xFCE, ["TIBETAN SIGN RDEL NAG RDEL DKARjGSUMsMARK BSKA- SHOG GI MGO RGYANxMNYAM YIG GI MGO RGY",
     "ANwNYIS TSHEGkINITIAL BRDA RNYING YIG MGO MDUN MAzkCLOSING BRDA RNYING YIG MGO SGAB MAzxRIGH",
     "T-FACING SVASTI SIGNyLEFT-FACING SVASTI SIGNxRIGHT-FACING SVASTI SIGN WITH DOTSzjLEFT-FACING",
     " SVASTI SIGN WITH DOTSziTIBETAN MARK LEADING MCHAN RTAGStTRAILING MCHAN RTAGS"]⟩,
  ⟨0x1000, ["MYANMAR LETTER KAbHAdGAbHAdNGAdCAbHAdJAbHAdNYAcNYAeTTAbHAeDDAbHAeNNAdTAbHAdDAbHAdNAcP",
     "AbHAdBAbHAdMAcYAcRAcLAcWAcSAcHAcLLAdAbSHAN AgIaIcUaUcEbMON EfObAUjVOWEL SIGN TALL AAhAAcIaIc",
     "UaUcEbAIcMON IIcOfE ABOVEsSIGN ANUSVARAiDOT BELOWjVISARGAfRAMAgASATjCONSONANT SIGN MEDIAL YA",
     "cRAcWAcHAyLETTER GREAT SApDIGIT ZEROeONEdTWOcHREEfFOURdIVEeSIXcEVENfEIGHTfNINEkSIGN LITTLE S",
     "ECTIONoSECTIONlYMBOL LOCATIVEiCOMPLETEDjAFOREMENTIONEDoGENITIVEpLETTER SHAcSAdVOCALIC RaRcLa",
     "LrVOWEL SIGN VOCALIC RaRcLaLvLETTER MON NGAdJHAdBBAbEoCONSONANT SIGN MON MEDIAL NAcMAcLAzdLE",
     "TTER SGAW KAREN SHAvVOWEL SIGN SGAW KAREN EUyTONE MARK SGAW KAREN HATHIfKE PHOzcLETTER WESTE",
     "RN PWO KAREN THAdPWAzdVOWEL SIGN WESTERN PWO KAREN EUcUEzgSIGN WESTERN PWO KAREN TONE-1b2b3b",
     "4b5zeLETTER EASTERN PWO KAREN NNAdYWAdGHWAzeVOWEL SIGN GEBA KAREN ImKAYAH OEcUbEEtLETTER SHA",
     "N KAbHAdGAcCAcZAcNYAdDAcNAcPHAdFAcBAcTHAdHAoCONSONANT SIGN SHAN MEDIAL WAzeVOWEL SIGN SHAN A",
     "AcEa ABOVEhFINAL YxSIGN SHAN TONE-2b3b5b6gCOUNCIL TONE-2b3gEMPHATIC TONEzgLETTER RUMAI PALAU",
     "NG FAxSIGN RUMAI PALAUNG TONE-5yHAN DIGIT ZEROeONEdTWOcHREEfFOURdIVEeSIXcEVENfEIGHTfNINEoIGN",
     " KHAMTI TONE-1b3sVOWEL SIGN AITON AaItSYMBOL SHAN ONEdEXCLAMATIONzgGEORGIAN CAPITAL LETTER A",
     "NcBANdGANdDONdENcVINdZENdTANdINcKANdLASdMANdNARdONcPARdZHAReRAEdSANdTARdUNcPHAReKHAReGHANeQA",
     "RdSHINeCHINdANdJILdCILcHAReXANdJHANeHAEcEbIEdWEcHARcOE"]⟩,
  ⟨0x10C7, ["GEORGIAN CAPITAL LETTER YN"]⟩,
  ⟨0x10CD, ["GEORGIAN CAPITAL LETTER AEN"]⟩,
  ⟨0x10D0, ["GEORGIAN LETTER ANcBANdGANdDONdENcVINdZENdTANdINcKANdLASdMANdNARdONcPARdZHAReRAEdSANd",
     "TARdUNcPHAReKHAReGHANeQARdSHINeCHINdANdJILdCILcHAReXANdJHANeHAEcEbIEdWEcHARcOEdFIcYNcELIFIfT",
     "URNED GANkAINkPARAGRAPH SEPARATORzdMODIFIER LETTER GEORGIAN NARzdGEORGIAN LETTER AENdHARD SI",
     "GNjLABIAL SIGNzcHANGUL CHOSEONG KIYEOKgSSANGKIYEOKlNIEUNfTIKEUTgSSANGTIKEUTlRIEULfMIEUMfPIEU",
     "PfSSANGPIEUPjIOSdSANGSIOSjIEUNGfCIEUCfSSANGCIEUCkCHIEUCHhKHIEUKHhTHIEUTHhPHIEUPHhHIEUHfNIEUN",
     "-KIYEOKmSSANGNIEUNkNIEUN-TIKEUTgPIEUPlTIKEUT-KIYEOKnRIEUL-NIEUNlSSANGRIEULkRIEUL-HIEUHlKAPYE",
     "OUNRIEULnMIEUM-PIEUPlKAPYEOUNMIEUMnPIEUP-KIYEOKgNIEUNfTIKEUTgSIOSa-KIYEOKgTIKEUTgPIEUPjSANGS",
     "IOSiIOS-CIEUCkCIEUCeHIEUCHhTHIEUTHhPHIEUPHnKAPYEOUNPIEUPfSSANGPIEUPsSIOS-KIYEOKgNIEUNfTIKEUT",
     "gRIEULfMIEUMfPIEUPa-KIYEOKmSSANGSIOSjIEUNGfCIEUCeHIEUCHhKHIEUKHhTHIEUTHhPHIEUPHhHIEUHkCHITUE",
     "UMSIOSdSANGSIOSqEONGCHIEUMSIOSdSANGSIOSuPANSIOShIEUNG-KIYEOKgTIKEUTgMIEUMfPIEUPfSIOSePANSIOS",
     "nSSANGIEUNGkIEUNG-CIEUCeHIEUCHhTHIEUTHhPHIEUPHnYESIEUNGiCIEUC-IEUNGkHITUEUMCIEUCfSSANGCIEUCr",
     "EONGCHIEUMCIEUCfSSANGCIEUCuHIEUCH-KHIEUKHhHIEUHkTUEUMCHIEUCHoEONGCHIEUMCHIEUCHsPHIEUPH-PIEUP",
     "nKAPYEOUNPHIEUPHpSSANGHIEUHkYEORINHIEUHlKIYEOK-TIKEUTnNIEUN-SIOSeCIEUCfHIEUHlTIKEUT-RIEULmFI",
     "LLERpJUNGSEONG FILLERgAaEcYAaEdEOcEbYEOcEcObWAaEdOEcYOcUbWEOcEbIcYUcEUcYIcIbA-ObUdYA-ObYOfEO",
     "-ObUbEUfYEO-ObUfO-EOcEbYEcObUdYO-YAaEcEOdObIeU-AaEcEO-EUfYEcUdYU-AbEOcEbYEOcEcUbIeEU-UbEUfYI",
     "-UeI-AbYAcObUbEUcARAEAhARAEAa-EOcUbIhSSANGARAEAkA-EUeYA-UdEO-YAgO-YAaEoONGSEONG KIYEOKgSSANG",
     "KIYEOKlKIYEOK-SIOSlNIEUNa-CIEUCfHIEUHlTIKEUTgRIEULa-KIYEOKgMIEUMfPIEUPfSIOSeTHIEUTHhPHIEUPHh",
     "HIEUHlMIEUMfPIEUPa-SIOSkSIOSdSANGSIOSjIEUNGfCIEUCeHIEUCHhKHIEUKHhTHIEUTHhPHIEUPHhHIEUHfKIYEO",
     "K-RIEULfSIOS-KIYEOKsNIEUN-KIYEOKgTIKEUTgSIOSePANSIOShTHIEUTHnTIKEUT-KIYEOKgRIEULmRIEUL-KIYEO",
     "K-SIOSlNIEUNfTIKEUTa-HIEUHsSSANGRIEULkRIEUL-MIEUM-KIYEOKgSIOSkPIEUP-SIOSeHIEUHlKAPYEOUNPIEUP",
     "nSSANGSIOSjPANSIOShKHIEUKHhYEORINHIEUHrMIEUM-KIYEOKgRIEULfPIEUPfSIOSdSANGSIOSjPANSIOShCHIEUC",
     "HhHIEUHlKAPYEOUNMIEUMnPIEUP-RIEULfPHIEUPHhHIEUHlKAPYEOUNPIEUPnSIOS-KIYEOKgTIKEUTgRIEULfPIEUP",
     "kPANSIOShIEUNG-KIYEOKgSSANGKIYEOKrSSANGIEUNGkIEUNG-KHIEUKHnYESIEUNGa-SIOSePANSIOSqPHIEUPH-PI",
     "EUPnKAPYEOUNPHIEUPHpHIEUH-NIEUNfRIEULfMIEUMfPIEUPlYEORINHIEUHlKIYEOK-NIEUNfPIEUPfCHIEUCHhKHI",
     "EUKHhHIEUHmSSANGNIEUNzcETHIOPIC SYLLABLE HAbUbIbAAcEEcEbOaAdLAbUbIbAAcEEcEbObWAdHHAbUbIbAAcE",
     "EcEbObWAeMAbUbIbAAcEEcEbObWAdSZAbUbIbAAcEEcEbObWAeRAbUbIbAAcEEcEbObWAdSAbUbIbAAcEEcEbObWAcHA",
     "bUbIbAAcEEcEbObWAeQAbUbIbAAcEEcEbOaAcWA"]⟩,
  ⟨0x124A, ["ETHIOPIC SYLLABLE QWIbAAcEEcE"]⟩,
  ⟨0x1250, ["ETHIOPIC SYLLABLE QHAbUbIbAAcEEcEbO"]⟩,
  ⟨0x1258, ["ETHIOPIC SYLLABLE QHWA"]⟩,
  ⟨0x125A, ["ETHIOPIC SYLLABLE QHWIbAAcEEcE"]⟩,
  ⟨0x1260, ["ETHIOPIC SYLLABLE BAbUbIbAAcEEcEbObWAdVAbUbIbAAcEEcEbObWAdTAbUbIbAAcEEcEbObWAdCAbUbIb",
     "AAcEEcEbObWAdXAbUbIbAAcEEcEbOaAcWA"]⟩,
  ⟨0x128A, ["ETHIOPIC SYLLABLE XWIbAAcEEcE"]⟩,
  ⟨0x1290, ["ETHIOPIC SYLLABLE NAbUbIbAAcEEcEbObWAcYAbUbIbAAcEEcEbObWAeGLOTTAL AbUbIbAAcEEcEbObWAk",
     "KAbUbIbAAcEEcEbOaAcWA"]⟩,
  ⟨0x12B2, ["ETHIOPIC SYLLABLE KWIbAAcEEcE"]⟩,
  ⟨0x12B8, ["ETHIOPIC SYLLABLE KXAbUbIbAAcEEcEbO"]⟩,
  ⟨0x12C0, ["ETHIOPIC SYLLABLE KXWA"]⟩,
  ⟨0x12C2, ["ETHIOPIC SYLLABLE KXWIbAAcEEcE"]⟩,
  ⟨0x12C8, ["ETHIOPIC SYLLABLE WAbUbIbAAcEEcEbOaAdPHARYNGEAL AbUbIbAAcEEcEbO"]⟩,
  ⟨0x12D8, ["ETHIOPIC SYLLABLE ZAbUbIbAAcEEcEbObWAcHAbUbIbAAcEEcEbObWAeYAbUbIbAAcEEcEbOaAdDAbUbIbA",
     "AcEEcEbObWAcDAbUbIbAAcEEcEbObWAeJAbUbIbAAcEEcEbObWAdGAbUbIbAAcEEcEbOaAcWA"]⟩,
  ⟨0x1312, ["ETHIOPIC SYLLABLE GWIbAAcEEcE"]⟩,
  ⟨0x1318, ["ETHIOPIC SYLLABLE GGAbUbIbAAcEEcEbObWAAfTHAbUbIbAAcEEcEbObWAeCHAbUbIbAAcEEcEbObWAePHA",
     "bUbIbAAcEEcEbObWAeTSAbUbIbAAcEEcEbObWAdZAbUbIbAAcEEcEbOaAeFAbUbIbAAcEEcEbObWAdPAbUbIbAAcEEcE",
     "bObWAdRYAdMYAdFYA"]⟩,
  ⟨0x135D, ["ETHIOPIC COMBINING GEMINATION AND VOWEL LENGTH MARKzhVOWEL LENGTH MARKrGEMINATION MAR",
     "KzSECTION MARKmWORDSPACEjFULL STOPjCOMMAfSEMICOLONjCOLONfPREFACE COLONnQUESTION MARKnPARAGRA",
     "PH SEPARATORtDIGIT ONEdTWOcHREEfFOURdIVEeSIXcEVENfEIGHTfNINEkNUMBER TENcWENTYfHIRTYgFORTYeIF",
     "TYfSIXTYeEVENTYhEIGHTYgNINETYgHUNDREDhTEN THOUSAND"]⟩,
  ⟨0x1380, ["ETHIOPIC SYLLABLE SEBATBEIT MWAnMWIbEEcEdSEBATBEIT BWAnBWIbEEcEdSEBATBEIT FWAnFWIbEEc",
     "EdSEBATBEIT PWAnPWIbEEcEmTONAL MARK YIZETfDERETfRIKRIKgSHORT RIKRIKmDIFATfKENATfCHIRETgHIDET",
     "fDERET-HIDETlKURT"]⟩,
  ⟨0x13A0, ["CHEROKEE LETTER AbEbIbObUbVbGAcKAcGEbIbObUbVcHAbEbIbObUbVcLAbEbIbObUbVcMAbEbIbObUcNAc",
     "HNAdNAHcEbIbObUbVcQUAbEbIbObUbVdSAcSaEbIbObUbVcDAcTAcDEcTEcDIcTIcDObUbVbLAdTLAbEbIbObUbVcSAb",
     "EbIbObUbVdWAbEbIbObUbVcYAbEbIbObUbVcMV"]⟩,
  ⟨0x13F8, ["CHEROKEE SMALL LETTER YEbIbObUbVcMV"]⟩,
  ⟨0x1400, ["CANADIAN SYLLABICS HYPHENgEbAAIdIaIcOaOcY-CREE OOjCARRIER EEcIjAaAcWEaST-CREE WElIbES",
     "T-CREE WIlIIcEST-CREE WIImObEST-CREE WOlOOcEST-CREE WOOnNASKAPI WOOlWAbEST-CREE WAlAAcEST-CR",
     "EE WAAnNASKAPI WAAlAIcY-CREE WiGLOTTAL STOPmFINAL ACUTEfGRAVEfBOTTOM HALF RINGqTOP HALF RING",
     "nRIGHT HALF RINGnNGeDOUBLE ACUTEfSHORT VERTICAL STROKESzeMIDDLE DOTkSHORT HORIZONTAL STROKEx",
     "PLUSeDOWN TACKpENcINcONcANcPEbAAIdIaIcOaOdY-CREE POOkCARRIER HEEcIkPAaAcWEdWEST-CREE PWEnPWI",
     "dWEST-CREE PWInPWIIeWEST-CREE PWIIoPWOdWEST-CREE PWOnPWOOeWEST-CREE PWOOoPWAdWEST-CREE PWAnP",
     "WAAeWEST-CREE PWAAoY-CREE PWAAlPbWEST-CREE PlCARRIER HjTEbAAIdIaIcOaOdY-CREE TOOkCARRIER DEE",
     "cIkTAaAcWEdWEST-CREE TWEnTWIdWEST-CREE TWInTWIIeWEST-CREE TWIIoTWOdWEST-CREE TWOnTWOOeWEST-C",
     "REE TWOOoTWAdWEST-CREE TWAnTWAAeWEST-CREE TWAAoNASKAPI TWAAmTaTEbIbObAdKEbAAIdIaIcOaOdY-CREE",
     " KOOkKAaAcWEdWEST-CREE KWEnKWIdWEST-CREE KWInKWIIeWEST-CREE KWIIoKWOdWEST-CREE KWOnKWOOeWEST",
     "-CREE KWOOoKWAdWEST-CREE KWAnKWAAeWEST-CREE KWAAoNASKAPI KWAAmKaWcSOUTH-SLAVEY KEHcIHcOHcAHq",
     "CEbAAIdIaIcOaOdY-CREE COOkCAaAcWEdWEST-CREE CWEnCWIdWEST-CREE CWInCWIIeWEST-CREE CWIIoCWOdWE",
     "ST-CREE CWOnCWOOeWEST-CREE CWOOoCWAdWEST-CREE CWAnCWAAeWEST-CREE CWAAoNASKAPI CWAAmCbSAYISI ",
     "THjMEbAAIdIaIcOaOdY-CREE MOOkMAaAcWEdWEST-CREE MWEnMWIdWEST-CREE MWInMWIIeWEST-CREE MWIIoMWO",
     "dWEST-CREE MWOnMWOOeWEST-CREE MWOOoMWAdWEST-CREE MWAnMWAAeWEST-CREE MWAAoNASKAPI MWAAmMbWEST",
     "-CREE MlMHcATHAPASCAN MmSAYISI MiNEbAAIdIaIcOaOdY-CREE NOOkNAaAcWEdWEST-CREE NWEnNWAdWEST-CR",
     "EE NWAnNWAAeWEST-CREE NWAAoNASKAPI NWAAmNbCARRIER NGkNHcLEbAAIdIaIcOaOdY-CREE LOOkLAaAcWEdWE",
     "ST-CREE LWEnLWIdWEST-CREE LWInLWIIeWEST-CREE LWIIoLWOdWEST-CREE LWOnLWOOeWEST-CREE LWOOoLWAd",
     "WEST-CREE LWAnLWAAeWEST-CREE LWAAoLbWEST-CREE LlMEDIAL LiSEbAAIdIaIcOaOdY-CREE SOOkSAaAcWEdW",
     "EST-CREE SWEnSWIdWEST-CREE SWInSWIIeWEST-CREE SWIIoSWOdWEST-CREE SWOnSWOOeWEST-CREE SWOOoSWA",
     "dWEST-CREE SWAnSWAAeWEST-CREE SWAAoNASKAPI SWAAmSbATHAPASCAN SmSWcBLACKFOOT SlMOOSE-CREE SKn",
     "NASKAPI SKWc-WcPWAdTWAdKWAdCWAmSHEbIaIcOaOcAaAcWEeWEST-CREE SHWEoSHWIeWEST-CREE SHWIoSHWIIfW",
     "EST-CREE SHWIIpSHWOeWEST-CREE SHWOoSHWOOfWEST-CREE SHWOOpSHWAeWEST-CREE SHWAoSHWAAfWEST-CREE",
     " SHWAApSHcYEbAAIdIaIcOaOc-CREE YOOjAaAcWEdWEST-CREE YWEnYWIdWEST-CREE YWInYWIIeWEST-CREE YWI",
     "IoYWOdWEST-CREE YWOnYWOOeWEST-CREE YWOOoYWAdWEST-CREE YWAnYWAAeWEST-CREE YWAAoNASKAPI YWAAmY",
     "bBIBLE-CREE YmWEST-CREE YlSAYISI YIjREb-CREE REjWEST-CREE LEmRAAIdIaIcOaOdWEST-CREE LOmRAaAd",
     "WEST-CREE LAmRWAAeWEST-CREE RWAAoRbWEST-CREE RlMEDIAL RiFEbAAIdIaIcOaOcAaAcWAAeWEST-CREE FWA",
     "AoFbTHEdN-CREE THEkTHIdN-CREE THIkTHIIeN-CREE THIIlTHOaOcAaAcWAAfWEST-CREE THWAApTHbTHEbIbOb",
     "AcHcYEbIbObAdNUNAVIK HEbIaIcOaOcAaAdHeUT HjHKcQAAIdIaIcOaOcAaAdQbTLHEbIbObAeWEST-CREE REbIbO",
     "bAmNGAAIdIaIcOaOcAaAdGbNGdSAYISI SHEbIbObAkWOODS-CREE THEbIbObAcHnLHIaIcOaOcAaAdHcTH-CREE TH",
     "EbIaIcOaOcAaAdHkAIVILIK BjBLACKFOOT EbIbObAbWEbIbObAcNEbIbObAcKEbIbObAmSAYISI HEbIbObAjCARRI",
     "ER GHUbObEaEcIbAdRUbObEaEcIbAcWUbObEaEcIbAcHWUbObEaEcIbAdTHUbObEaEcIbAcTUbObEaEcIbAdPUbObEaE",
     "cIbAcPbGUbObEaEcIbAcKHUbObEaEcIbAcKUbObEaEcIbAcKcNUbObEaEcIbAcMUbObEaEcIbAcYUbObEaEcIbAcJUkS",
     "AYISI JUjCARRIER JObEaEcIkSAYISI JIjCARRIER JAbJUbObEaEcIbAdLUbObEaEcIbAcDLUbObEaEcIbAdLHUbO",
     "bEaEcIbAdTLHUbObEaEcIbAcUbObEaEcIbAdZUbObEaEcIbAcZbINITIAL ZjDZUbObEaEcIbAdSUbObEaEcIbAbHUbO",
     "bEaEcIbAcHcTSUbObEaEcIbAdCHUbObEaEcIbAdTTSUbObEaEcIbAlHI SIGNiFULL STOPjQAIdNGAIdNGIaIcOaOcA",
     "aAfWOODS-CREE THWEEcIaIcOaOcAaAfFINAL THtBLACKFOOT WzfOGHAM SPACE MARKkLETTER BEITHfLUISeFEA",
     "RNfSAILeNIONeUATHeDAIReTINNEfCOLLdEIRTfMUINeGORTeNGEADALhSTRAIFgRUISeAILMeONNdURcEADHADHhIOD",
     "HADHhEABHADHhORcUILLEANNiIFINeEAMHANCHOLLlPEITHmFEATHER MARKmREVERSED FEATHER MARK"]⟩,
  ⟨0x16A0, ["RUNIC LETTER FEHU FEOH FE FoVbURUZ UR UjYRcYbWbTHURISAZ THURS THORNuETHdANSUZ AhOS Oe",
     "AC AdESCeLONG-BRANCH-OSS OrSHORT-TWIG-OSS OqOaEbNcRAIDO RAD REID RqKAUNAfCENdKAUN KgGbENGdGE",
     "BO GYFU GkARdWUNJO WYNN WmHAGLAZ HgEGL HhLONG-BRANCH-HAGALL HuSHORT-TWIG-HAGALL HtNAUDIZ NYD",
     " NAUD NrSHORT-TWIG-NAUD NrDOTTED-NiISAZ IS ISS InEbJERAN JhGERdLONG-BRANCH-AR AErSHORT-TWIG-",
     "AR ApIWAZ EOHiPERTHO PEORTH PpALGIZ EOLHXlSOWILO ShIGEL LONG-BRANCH-SOL SwHORT-TWIG-SOL SqCb",
     "ZbTIWAZ TIR TYR TpSHORT-TWIG-TYR TqDbBERKANAN BEORC BJARKAN BySHORT-TWIG-BJARKAN BuDOTTED-Pi",
     "OPEN-PgEHWAZ EH EkMANNAZ MAN MmLONG-BRANCH-MADR MsSHORT-TWIG-MADR MrLAUKAZ LAGU LOGR LsDOTTE",
     "D-LiINGWAZeGdDAGAZ DAEG DmOTHALAN ETHEL OpEARdIORdCWEORTHgALCdEALCfSTANeLONG-BRANCH-YRoSHORT",
     "-TWIG-YRnICELANDIC-YRmQbXiSINGLE PUNCTUATIONsMULTIPLE PUNCTUATIONuCROSS PUNCTUATIONrARLAUG S",
     "YMBOLnTVIMADUR SYMBOLpBELGTHOR SYMBOLpLETTER KbSHcOOcFRANKS CASKET OScIScEHcACbESC"]⟩,
  ⟨0x1700, ["TAGALOG LETTER AbIbUbKAcGAcNGAdTAcDAcNAcPAcBAcMAcYAcRAcLAcWAcSAcHAjVOWEL SIGN IbUmSIG",
     "N VIRAMAgPAMUDPOD"]⟩,
  ⟨0x171F, ["TAGALOG LETTER ARCHAIC RAzHANUNOO LETTER AbIbUbKAcGAcNGAdTAcDAcNAcPAcBAcMAcYAcRAcLAcW",
     "AcSAcHAjVOWEL SIGN IbUmSIGN PAMUDPODvPHILIPPINE SINGLE PUNCTUATIONsDOUBLE PUNCTUATION"]⟩,
  ⟨0x1740, ["BUHID LETTER AbIbUbKAcGAcNGAdTAcDAcNAcPAcBAcMAcYAcRAcLAcWAcSAcHAjVOWEL SIGN IbU"]⟩,
  ⟨0x1760, ["TAGBANWA LETTER AbIbUbKAcGAcNGAdTAcDAcNAcPAcBAcMAcYA"]⟩,
  ⟨0x176E, ["TAGBANWA LETTER LAcWAcSA"]⟩,
  ⟨0x1772, ["TAGBANWA VOWEL SIGN IbU"]⟩,
  ⟨0x1780, ["KHMER LETTER KAbHAcObHOdNGOdCAbHAcObHOdNYOdDAcTTHAeDOcTTHOeNNOdTAbHAcObHOdNOcBAcPHAcO",
     "bHOdMOcYOcROcLOcVOcSHAcSOcAcHAcLAcQAjINDEPENDENT VOWEL QAQbAcIaIcUaKbUaVeRYaYdLYaYdQEbAIcOO ",
     "TYPE ONEdTWOlAUvVOWEL INHERENT AQbAlSIGN AAcIaIcYaYcUaUbAcOEcYAcIEcEbAEbIcOOcAUnSIGN NIKAHIT",
     "hREAHMUKhYUUKALEAPINTUnMUUSIKATOANlTRIISAPhBANTOCgROBATfTOANDAKHIATlKAKABAThAHSDAfSAMYOK SAN",
     "NYAnVIRIAMgCOENGfBATHAMASATkKHANeBARIYOOSANkCAMNUC PII KUUHpLEK TOOhBEYYALgPHNAEK MUANlKOOMU",
     "UTmCURRENCY SYMBOL RIELuSIGN AVAKRAHASANYAmTTHACAN"]⟩,
  ⟨0x17E0, ["KHMER DIGIT ZEROeONEdTWOcHREEfFOURdIVEeSIXcEVENfEIGHTfNINE"]⟩,
  ⟨0x17F0, ["KHMER SYMBOL LEK ATTAK SONdMUOYePIIdBEIcUONePRAMa-MUOYePIIdBEIcUON"]⟩,
  ⟨0x1800, ["MONGOLIAN BIRGAfELLIPSISiCOMMAfFULL STOPjCOLONfFOUR DOTSjTODO SOFT HYPHENqSIBE SYLLAB",
     "LE BOUNDARY MARKERzeMANCHU COMMAfFULL STOPqNIRUGUgFREE VARIATION SELECTOR ONEdTWOcHREEzeVOWE",
     "L SEPARATORpFREE VARIATION SELECTOR FOURzdDIGIT ZEROeONEdTWOcHREEfFOURdIVEeSIXcEVENfEIGHTfNI",
     "NE"]⟩,
  ⟨0x1820, ["MONGOLIAN LETTER AbEbIbObUbOEcUEcEEcNAcANGdBAcPAcQAcGAcMAcLAcSAbHAdTAcDAcCHAdJAcYAcRA",
     "cWAcFAcKAbHAdTSAdZAcHAAdZRAdLHAdZHIdCHIdTODO LONG VOWEL SIGNpEbIbObUbOEcUEcANGdBAcPAcQAcGAcM",
     "AcTAcDAcCHAdJAcTSAdYAcWAcKAcGAAdHAAdJIAdNIAdDZAiSIBE EbIaYcUEcUbANGdKAcGAcHAcPAcSHAdTAcDAcJA",
     "cFAcGAAdHAAdTSAdZAcRAAdCHAdZHAiMANCHU IbKAcRAcFAcZHAkCHA WITH TWO DOTS"]⟩,
  ⟨0x1880, ["MONGOLIAN LETTER ALI GALI ANUSVARA ONEmVISARGA ONElDAMARUgUBADAMAhINVERTED UBADAMAqBA",
     "LUDAgTHREE BALUDAmAbIbKAcNGAdCAcTTAbHAeDDAdNNAdTAcDAcPAbHAdSSAdZHAcAcAHlTODO ALI GALI TAcZHA",
     "rMANCHU ALI GALI GHAdNGAdCAcJHAdTTAdDDHAeTAcDHAdSSAdCYAdZHAcAsALI GALI HALF UbYAqMANCHU ALI ",
     "GALI BHAtALI GALI DAGALGAqMANCHU ALI GALI LHA"]⟩,
  ⟨0x18B0, ["CANADIAN SYLLABICS OYcAYbAYdWAYdPOYcAYcWOYeTAYdKAYcWAYeMAYdNOYcAYdLAYdSOYcAYcHOYcAYcW",
     "OYfYOYcAYdRAYdNWIdOJIBWAY NWIlNWIIeOJIBWAY NWIImNWOdOJIBWAY NWOlNWOOeOJIBWAY NWOOmRWEEcIaIcO",
     "aOcAdOJIBWAY PbTbKbCbMbNbSaHkEASTERN WjWESTERN WjFINAL SMALL RINGkRAISED DOTqR-CREE RWEkWEST",
     "-CREE LOOcAAnTHWEbAdTHWEcOOcAAeLHWEcOOfSAYISI SHWEcOOeHOOkCARRIER GWUdDENE GEEiGAAcWAlSAYISI",
     " JUUkCARRIER JWAlBEAVER DENE LbRnCARRIER DENTAL S"]⟩,
  ⟨0x1900, ["LIMBU VOWEL-CARRIER LETTERuLETTER KAbHAdGAbHAdNGAdCAbHAdJAbHAdYANdTAbHAdDAbHAdNAcPAbH",
     "AdBAbHAdMAcYAcRAcLAcWAcSHAcSAcAcHAcGYANeTRA"]⟩,
  ⟨0x1920, ["LIMBU VOWEL SIGN AbIbUbEEcAIcOOcAUcEbOmSUBJOINED LETTER YAcRAcWA"]⟩,
  ⟨0x1930, ["LIMBU SMALL LETTER KAcNGAdANUSVARAiTAcNAcPAcMAcRAcLAoIGN MUKPHRENGjKEMPHRENGjSA-I"]⟩,
  ⟨0x1940, ["LIMBU SIGN LOO"]⟩,
  ⟨0x1944, ["LIMBU EXCLAMATION MARKqQUESTION MARKnDIGIT ZEROeONEdTWOcHREEfFOURdIVEeSIXcEVENfEIGHTf",
     "NINEqTAI LE LETTER KAcXAcNGAdTSAdSAcYAcTAbHAdLAcPAbHAdMAcFAcVAcHAcQAcKHAdTSHAeNAcAbIbEEbHcUb",
     "OOcObUEcEbAUEcI"]⟩,
  ⟨0x1970, ["TAI LE LETTER TONE-2b3b4b5b6"]⟩,
  ⟨0x1980, ["NEW TAI LUE LETTER HIGH QAhLOW QAgHIGH KAcXAcNGAiLOW KAcXAcNGAhHIGH TSAdSAcYAhLOW TSA",
     "dSAcYAgHIGH TAbHAdNAhLOW TAbHAdNAgHIGH PAbHAdMAhLOW PAbHAdMAgHIGH FAcVAcLAhLOW FAcVAcLAgHIGH",
     " HAcDAcBAhLOW HAcDAcBAgHIGH KVAdXVAiLOW KVAdXVAhHIGH SUAiLOW SUA"]⟩,
  ⟨0x19B0, ["NEW TAI LUE VOWEL SIGN VOWEL SHORTENERpAAcIIcUaUcEbAEcOaAcUEcAYbAYdUYcOYbAYdUEYdIYnLE",
     "TTER FINAL VbNGcNbMbKbDbBoTONE MARK-1b2"]⟩,
  ⟨0x19D0, ["NEW TAI LUE DIGIT ZEROeONEdTWOcHREEfFOURdIVEeSIXcEVENfEIGHTfNINEkTHAM DIGIT ONE"]⟩,
  ⟨0x19DE, ["NEW TAI LUE SIGN LAEaVvKHMER SYMBOL PATHAMASATkMUOY KOETjPII KOETiBEI KOEThUON KOETjP",
     "RAM KOETf-MUOY KOETjPII KOETiBEI KOEThUON KOEToDAP KOETf-MUOY KOETjPII KOETiBEI KOEThUON KOE",
     "TjPRAM KOETnTUTEYASATjMUOY ROCiPII ROChBEI ROCgUON ROCiPRAM ROCe-MUOY ROCiPII ROChBEI ROCgUO",
     "N ROCnDAP ROCe-MUOY ROCiPII ROChBEI ROCgUON ROCiPRAM ROCzBUGINESE LETTER KAcGAcNGAbKAePAcBAc",
     "MAbPAdTAcDAcNAbRAdCAcJAcNYAbCAeYAcRAcLAcVAcSAcAbHAjVOWEL SIGN IbUbEbObAE"]⟩,
  ⟨0x1A1E, ["BUGINESE PALLAWAhEND OF SECTIONxTAI THAM LETTER HIGH KAbHAcXAiLOW KAbXAcHAhNGAdHIGH C",
     "AbHAiLOW CAcSAcCHAhNYAdRATAeHIGH RATHAkDAcLOW RATHAjRANAeHIGH TAbHAiLOW TAbHAhNAcBAcHIGH PAb",
     "HAdFAhLOW PAcFAcPHAhMAcLOW YAgHIGH YAhRAbUEdLAbUEdWAcHIGH SHAcSAcAcHAhLLAdAbLOW HAgIaIcUaUcE",
     "EcOOcLAEdGREAT SApCONSONANT SIGN MEDIAL RAcLAjLA TANG LAIzbSIGN MAI KANG LAIrCONSONANT SIGN ",
     "FINAL NGAjLOW PAgHIGH RATHA OR LOW PAuMAcBAcSA"]⟩,
  ⟨0x1A60, ["TAI THAM SIGN SAKOTkVOWEL SIGN AbMAI SAThAAcTALL AAhIaIcUEbUEdUaUcOaA BELOWhYcEbAEcOO",
     "cAIcTHAM AIhOA ABOVEtSIGN MAI KANGiTONE-1b2gKHUEN TONE-3b4b5mRA HAAMhMAI SAMhKHUEN-LUE KARAN"]⟩,
  ⟨0x1A7F, ["TAI THAM COMBINING CRYPTOGRAMMIC DOTzcHORA DIGIT ZEROeONEdTWOcHREEfFOURdIVEeSIXcEVENf",
     "EIGHTfNINE"]⟩,
  ⟨0x1A90, ["TAI THAM THAM DIGIT ZEROeONEdTWOcHREEfFOURdIVEeSIXcEVENfEIGHTfNINE"]⟩,
  ⟨0x1AA0, ["TAI THAM SIGN WIANGaWAAKjSAWANfKEOWeHOYdDOKMAIgREVERSED ROTATED RANAvMAI YAMOKjKAANaK",
     "UUhSATKAANaKUUkHANGeCAANG"]⟩,
  ⟨0x1AB0, ["COMBINING DOUBLED CIRCUMFLEX ACCENTyIAERESIS-RINGoINFINITYiDOWNWARDS ARROWpTRIPLE DOT",
     "kX-X BELOWjWIGGLY LINE BELOWrOPEN MARK BELOWpDOUBLE OPEN MARK BELOWwLIGHT CENTRALIZATION STR",
     "OKE BELOWziSTRONG CENTRALIZATION STROKE BELOWzjPARENTHESES ABOVErDOUBLE PARENTHESES ABOVEyPA",
     "RENTHESES BELOWfOVERLAYtLATIN SMALL LETTER W BELOWhTURNED W BELOWzhEFT PARENTHESIS ABOVE LEF",
     "TzcRIGHT PARENTHESIS ABOVE RIGHTzeLEFT PARENTHESIS BELOW LEFTzcRIGHT PARENTHESIS BELOW RIGHT",
     "zeSQUARE BRACKETS ABOVEvNUMBER SIGN ABOVErINVERTED DOUBLE ARCH ABOVEzbPLUS SIGN ABOVEpDOUBLE",
     " PLUS SIGN ABOVEfBELOWwTRIPLE ACUTE ACCENTtLATIN SMALL LETTER INSULAR GbRbT"]⟩,
  ⟨0x1B00, ["BALINESE SIGN ULU RICEMfCANDRAkCECEKfSURANGgBISAHkLETTER AKARAa TEDUNGmIKARAa TEDUNGm",
     "UKARAa TEDUNGmRA REPAa TEDUNGoLA LENGAa TEDUNGpEKARAfAIKARAgOKARAa TEDUNGmKAa MAHAPRANAmGAa ",
     "GORAhNGAdCAa LACAhJAa JERAhNYAdTA LATIKfMURDA MAHAPRANAsDA MURDA ALPAPRANAjMAHAPRANAsNA RAMB",
     "ATjTAa TAWAhDAa MADUhNAcPAa KAPALiBAa KEMBANGkMAcYAcRAcLAcWAcSA SAGAcPAgAcHAjSIGN REREKANmVO",
     "WEL SIGN TEDUNGgULUa SARIiSUKUa ILUTjRA REPAa TEDUNGoLA LENGAa TEDUNGpTALINGa REPAeTEDUNGgRE",
     "PA TEDUNGsPEPETa TEDUNGxADEG ADEGjLETTER KAF SASAKiHOT SASAKkTZIR SASAKkEF SASAKiVE SASAKiZA",
     "L SASAKjASYURA SASAKlRCHAIC JNYA"]⟩,
  ⟨0x1B50, ["BALINESE DIGIT ZEROeONEdTWOcHREEfFOURdIVEeSIXcEVENfEIGHTfNINEkPANTIdMADAgWINDUfCARIK ",
     "PAMUNGKAHjSIKIePARERENnPAMENENGiMUSICAL SYMBOL DONGdENGdUNGdANGa SURANGkINGdAENGeEUNGeAINGdN",
     "G GEDEjCOMBINING TEGEHfENDEPfKEMPULcLIgJEGOGANhKEMPUL WITH JEGOGANpLI WITH JEGOGANtBENDEfGON",
     "GoRIGHT-HAND OPEN DUGcAGiCLOSED TUKcAKvLEFT-HAND OPEN PANGdUNGjCLOSED PLAKcUKlOPEN PINGzjPAN",
     "TI LANTANGlMADA LANTANG"]⟩,
  ⟨0x1B80, ["SUNDANESE SIGN PANYECEKfGLAYARfWISADoLETTER AbIbUbAEcObEaUcKAcQAcGAcNGAdCAcJAcZAcNYAd",
     "TAcDAcNAcPAcFAcVAcBAcMAcYAcRAcLAcWAcSAcXAcHAjCONSONANT SIGN PAMINGKALhNYAKRAeIKUwVOWEL SIGN ",
     "PANGHULUfYUKUeAELAENGhOLONGgMEPETfNEULEUNGvSIGN PAMAAEHhVIRAMAlCONSONANT SIGN PASANGAN MAcWA",
     "zbLETTER KHAdSYAkDIGIT ZEROeONEdTWOcHREEfFOURdIVEeSIXcEVENfEIGHTfNINEkAVAGRAHAiLETTER REUdLE",
     "UdBHAdFINAL KbMyBATAK LETTER AbSIMALUNGUN AmHAcSIMALUNGUN HAnMANDAILING HAnBAcKARO BAhPAcSIM",
     "ALUNGUN PAnNAcMANDAILING NAnWAcSIMALUNGUN WAnPAKPAK WAjGAcSIMALUNGUN GAnJAcDAcRAcSIMALUNGUN ",
     "RAnMAcSIMALUNGUN MAmOUTHERN TAlNORTHERN TAlSAbIMALUNGUN SAnMANDAILING SAnYAcSIMALUNGUN YAnNG",
     "AdLAcSIMALUNGUN LAnNYAdCAcNDAdMBAdIbUiSIGN TOMPIkVOWEL SIGN EbPAKPAK EiEEcIbKARO IgObKARO Og",
     "Ua FOR SIMALUNGUN SAzfCONSONANT SIGN NGcHqPANGOLATfONGONAN"]⟩,
  ⟨0x1BFC, ["BATAK SYMBOL BINDU NA METEKiPINARBORASkJUDULfPANGOLATzcLEPCHA LETTER KAbLAcHAdGAbLAdN",
     "GAdCAbHAdJAcNYAdTAbHAdDAcNAcPAbLAcHAdFAbLAdBAbLAdMAbLAdTSAbHAeDZAdYAcRAcLAcHAbLAdVAcSAbHAdWA",
     "cAiSUBJOINED LETTER YAcRAtVOWEL SIGN AAcIbOaOcUaUcEmCONSONANT SIGN KbMbLbNbPbRbTbNYIN-DOhKAN",
     "GtSIGN RANdNUKTA"]⟩,
  ⟨0x1C3B, ["LEPCHA PUNCTUATION TA-ROLgNYET THYOOM TA-ROLsCER-WAgTSHOOK CER-WAiKsDIGIT ZEROeONEdTW",
     "OcHREEfFOURdIVEeSIXcEVENfEIGHTfNINE"]⟩,
  ⟨0x1C4D, ["LEPCHA LETTER TTAbHAeDDArOL CHIKI DIGIT ZEROeONEdTWOcHREEfFOURdIVEeSIXcEVENfEIGHTfNIN",
     "EkLETTER LAcATbGbNGcLcLAAdAAKbJbMbWdLIcISbHbNYcRcLUcUCbDbNNcYcLEcEPbDDcNbRRdLOcOTTcBbVbHjMU ",
     "TTUDDAGkGAAHLAA TTUDDAAGqMU-GAAHLAA TTUDDAAGtRELAAfPHAARKAAiAHADePUNCTUATION MUCAADgDOUBLE M",
     "UCAADzjCYRILLIC SMALL LETTER ROUNDED VEkLONG-LEGGED DEoNARROW OiWIDE EShTALL TEgHREE-LEGGED ",
     "TEoALL HARD SIGNjYATiUNBLENDED UK"]⟩,
  ⟨0x1C90, ["GEORGIAN MTAVRULI CAPITAL LETTER ANcBANdGANdDONdENcVINdZENdTANdINcKANdLASdMANdNARdONc",
     "PARdZHAReRAEdSANdTARdUNcPHAReKHAReGHANeQARdSHINeCHINdANdJILdCILcHAReXANdJHANeHAEcEbIEdWEcHAR",
     "cOEdFIcYNcELIFIfTURNED GANkAIN"]⟩,
  ⟨0x1CBD, ["GEORGIAN MTAVRULI CAPITAL LETTER AENdHARD SIGNjLABIAL SIGNztSUNDANESE PUNCTUATION BIN",
     "DU SURYAfPANGLONGhURNAMAhCAKRAfLEU SATANGAlKA SATANGAkDA SATANGAkBA SATANGA"]⟩,
  ⟨0x1CD0, ["VEDIC TONE KARSHANAiSHARAfPRENKHAmSIGN NIHSHVASAjYAJURVEDIC MIDLINE SVARITAzgTONE YAJ",
     "URVEDIC AGGRAVATED INDEPENDENT SVARITAzfINDEPENDENT SVARITAtKATHAKA INDEPENDENT SVARITAznCAN",
     "DRA BELOWmYAJURVEDIC KATHAKA INDEPENDENT SVARITA SCHROEDERzxDOUBLE SVARITAoTRIPLE SVARITAoKA",
     "THAKA ANUDATTAqDOT BELOWjTWO DOTS BELOWnHREE DOTS BELOWqRIGVEDIC KASHMIRI INDEPENDENT SVARIT",
     "AzmATHARVAVEDIC INDEPENDENT SVARITAzmSIGN VISARGA SVARITAhUDATTAoREVERSED VISARGA UDATTAxVIS",
     "ARGA ANUDATTAqREVERSED VISARGA ANUDATTAzVISARGA UDATTA WITH TAILqANUDATTA WITH TAILzbANUSVAR",
     "A ANTARGOMUKHAmBAHIRGOMUKHAmVAMAGOMUKHAa WITH TAILzfTIRYAKgHEXIFORM LONG ANUSVARAwLONG ANUSV",
     "ARAnRTHANG LONG ANUSVARAuANUSVARA UBHAYATO MUKHAwRDHAVISARGAmROTATED ARDHAVISARGAzTONE CANDR",
     "A ABOVErSIGN JIHVAMULIYAlUPADHMANIYAlATIKRAMAnTONE RING ABOVEkDOUBLE RING ABOVEwSIGN DOUBLE ",
     "ANUSVARA ANTARGOMUKHA"]⟩,
  ⟨0x1D00, ["LATIN LETTER SMALL CAPITAL AaExSMALL LETTER TURNED AEwLETTER SMALL CAPITAL BARRED BiC",
     "bDbETHdEwSMALL LETTER TURNED OPEN EgIvLETTER SMALL CAPITAL JbKbL WITH STROKEnMbREVERSED NkOa",
     "PEN OzcSMALL LETTER SIDEWAYS OaPEN Of WITH STROKEwTURNED OEwLETTER SMALL CAPITAL OUxSMALL LE",
     "TTER TOP HALF OkBOTTOM HALF OzbLETTER SMALL CAPITAL PbREVERSED RkTURNED RiTbUwSMALL LETTER S",
     "IDEWAYS UbDIAERESIZED UnTURNED MzfLETTER SMALL CAPITAL VbWbZbEZHrVOICED LARYNGEAL SPIRANTyAI",
     "NqGREEK LETTER SMALL CAPITAL GAMMAfLAMDAfPIcRHOdPSIzfCYRILLIC LETTER SMALL CAPITAL ELzhMODIF",
     "IER LETTER CAPITAL AaEcBaARRED BiDbEbREVERSED EkGbHbIbJbKbLbMbNbREVERSED NkOaUcPbRbTbUbWjSMA",
     "LL AbTURNED AiALPHAfTURNED AEjBbDbEbSCHWAfOPEN EgTURNED OPEN EnGbTURNED IiKbMbENGdOaPEN OgTO",
     "P HALF OkBOTTOM HALF OnPbTbUbSIDEWAYS UkTURNED MiVbAINdBETAeGREEK GAMMAlDELTAfGREEK PHIjCHIz",
     "LATIN SUBSCRIPT SMALL LETTER IbRbUbVzfGREEK SUBSCRIPT SMALL LETTER BETAeGAMMAfRHOdPHIdCHIzhL",
     "ATIN SMALL LETTER UEcB WITH MIDDLE TILDEtD WITH MIDDLE TILDEtF WITH MIDDLE TILDEtM WITH MIDD",
     "LE TILDEtN WITH MIDDLE TILDEtP WITH MIDDLE TILDEtR WITH MIDDLE TILDEmFISHHOOK AND MIDDLE TIL",
     "DEzhS WITH MIDDLE TILDEtT WITH MIDDLE TILDEtZ WITH MIDDLE TILDEtTURNED GzcMODIFIER LETTER CY",
     "RILLIC ENzcLATIN SMALL LETTER INSULAR GjTH WITH STRIKETHROUGHzdCAPITAL LETTER I WITH STROKEz",
     "dLETTER IOTA WITH STROKEqP WITH STROKEuCAPITAL LETTER U WITH STROKEzdLETTER UPSILON WITH STR",
     "OKEtB WITH PALATAL HOOKtD WITH PALATAL HOOKtF WITH PALATAL HOOKtG WITH PALATAL HOOKtK WITH P",
     "ALATAL HOOKtL WITH PALATAL HOOKtM WITH PALATAL HOOKtN WITH PALATAL HOOKtP WITH PALATAL HOOKt",
     "R WITH PALATAL HOOKtS WITH PALATAL HOOKtESH WITH PALATAL HOOKvV WITH PALATAL HOOKtX WITH PAL",
     "ATAL HOOKtZ WITH PALATAL HOOKtA WITH RETROFLEX HOOKuLPHA WITH RETROFLEX HOOKzD WITH HOOK AND",
     " TAILuE WITH RETROFLEX HOOKvOPEN E WITH RETROFLEX HOOKzbREVERSED OPEN E WITH RETROFLEX HOOKz",
     "kSCHWA WITH RETROFLEX HOOKzI WITH RETROFLEX HOOKvOPEN O WITH RETROFLEX HOOKzbESH WITH RETROF",
     "LEX HOOKxU WITH RETROFLEX HOOKvEZH WITH RETROFLEX HOOKzrMODIFIER LETTER SMALL TURNED ALPHAmC",
     "a WITH CURLlETHdREVERSED OPEN EpFbDOTLESS J WITH STROKEvSCRIPT GiTURNED HiI WITH STROKEmOTAe",
     "CAPITAL Ia WITH STROKEvJ WITH CROSSED-TAILtL WITH RETROFLEX HOOKoPALATAL HOOKtCAPITAL LjM WI",
     "TH HOOKlTURNED M WITH LONG LEGwN WITH LEFT HOOKjRETROFLEX HOOKvCAPITAL NjBARRED OiPHIdS WITH",
     " HOOKlESHdT WITH PALATAL HOOKtU BARePSILONhCAPITAL UjV WITH HOOKlTURNED ViZa WITH RETROFLEX ",
     "HOOKoCURLlEZHdTHETAzcCOMBINING DOTTED GRAVE ACCENTmACUTE ACCENTtSNAKE BELOWkUSPENSION MARKpM",
     "ACRON-ACUTEmGRAVE-MACRONmMACRON-GRAVEmACUTE-MACRONmGRAVE-ACUTE-GRAVErACUTE-GRAVE-ACUTErLATIN",
     " SMALL LETTER R BELOWzbBREVE-MACRONmMACRON-BREVEmDOUBLE CIRCUMFLEX ABOVExOGONEK ABOVEmZIGZAG",
     " BELOWmIS BELOWiUR ABOVEhS ABOVEiLATIN SMALL LETTER FLATTENED OPEN A ABOVEwAEbObVcC CEDILLAj",
     "INSULAR DjETHdGoLETTER SMALL CAPITAL GwSMALL LETTER KbLoLETTER SMALL CAPITAL LbMwSMALL LETTE",
     "R NoLETTER SMALL CAPITAL NbRwSMALL LETTER R ROTUNDAjSbLONG SgZbALPHAfBaETAeSCHWAfFbL WITH DO",
     "UBLE MIDDLE TILDEzbO WITH LIGHT CENTRALIZATION STROKEzjPbESHdU WITH LIGHT CENTRALIZATION STR",
     "OKEzjWbA WITH DIAERESISqO WITH DIAERESISqU WITH DIAERESISzkUP TACK ABOVEnKAVYKA ABOVE RIGHTf",
     "LEFTrDOT ABOVE LEFToWIDE INVERTED BRIDGE BELOWzbDOT BELOW LEFTnELETION MARKmOUBLE INVERTED B",
     "REVE BELOWzcALMOST EQUAL TO BELOWvLEFT ARROWHEAD ABOVEuRIGHT ARROWHEAD AND DOWN ARROWHEAD BE",
     "LOWzzLATIN CAPITAL LETTER A WITH RING BELOWzhSMALL LETTER A WITH RING BELOWzfCAPITAL LETTER ",
     "B WITH DOT ABOVEzgSMALL LETTER B WITH DOT ABOVEzeCAPITAL LETTER B WITH DOT BELOWzgSMALL LETT",
     "ER B WITH DOT BELOWzeCAPITAL LETTER B WITH LINE BELOWzhSMALL LETTER B WITH LINE BELOWzfCAPIT",
     "AL LETTER C WITH CEDILLA AND ACUTEzoSMALL LETTER C WITH CEDILLA AND ACUTEzmCAPITAL LETTER D ",
     "WITH DOT ABOVEzgSMALL LETTER D WITH DOT ABOVEzeCAPITAL LETTER D WITH DOT BELOWzgSMALL LETTER",
     " D WITH DOT BELOWzeCAPITAL LETTER D WITH LINE BELOWzhSMALL LETTER D WITH LINE BELOWzfCAPITAL",
     " LETTER D WITH CEDILLAzeSMALL LETTER D WITH CEDILLAzcCAPITAL LETTER D WITH CIRCUMFLEX BELOWz",
     "nSMALL LETTER D WITH CIRCUMFLEX BELOWzlCAPITAL LETTER E WITH MACRON AND GRAVEznSMALL LETTER ",
     "E WITH MACRON AND GRAVEzlCAPITAL LETTER E WITH MACRON AND ACUTEznSMALL LETTER E WITH MACRON ",
     "AND ACUTEzlCAPITAL LETTER E WITH CIRCUMFLEX BELOWznSMALL LETTER E WITH CIRCUMFLEX BELOWzlCAP",
     "ITAL LETTER E WITH TILDE BELOWziSMALL LETTER E WITH TILDE BELOWzgCAPITAL LETTER E WITH CEDIL",
     "LA AND BREVEzoSMALL LETTER E WITH CEDILLA AND BREVEzmCAPITAL LETTER F WITH DOT ABOVEzgSMALL ",
     "LETTER F WITH DOT ABOVEzeCAPITAL LETTER G WITH MACRONzdSMALL LETTER G WITH MACRONzbCAPITAL L",
     "ETTER H WITH DOT ABOVEzgSMALL LETTER H WITH DOT ABOVEzeCAPITAL LETTER H WITH DOT BELOWzgSMAL",
     "L LETTER H WITH DOT BELOWzeCAPITAL LETTER H WITH DIAERESISzgSMALL LETTER H WITH DIAERESISzeC",
     "APITAL LETTER H WITH CEDILLAzeSMALL LETTER H WITH CEDILLAzcCAPITAL LETTER H WITH BREVE BELOW",
     "ziSMALL LETTER H WITH BREVE BELOWzgCAPITAL LETTER I WITH TILDE BELOWziSMALL LETTER I WITH TI",
     "LDE BELOWzgCAPITAL LETTER I WITH DIAERESIS AND ACUTEzqSMALL LETTER I WITH DIAERESIS AND ACUT",
     "EzoCAPITAL LETTER K WITH ACUTEzcSMALL LETTER K WITH ACUTEzCAPITAL LETTER K WITH DOT BELOWzgS",
     "MALL LETTER K WITH DOT BELOWzeCAPITAL LETTER K WITH LINE BELOWzhSMALL LETTER K WITH LINE BEL",
     "OWzfCAPITAL LETTER L WITH DOT BELOWzgSMALL LETTER L WITH DOT BELOWzeCAPITAL LETTER L WITH DO",
     "T BELOW AND MACRONzrSMALL LETTER L WITH DOT BELOW AND MACRONzpCAPITAL LETTER L WITH LINE BEL",
     "OWzhSMALL LETTER L WITH LINE BELOWzfCAPITAL LETTER L WITH CIRCUMFLEX BELOWznSMALL LETTER L W",
     "ITH CIRCUMFLEX BELOWzlCAPITAL LETTER M WITH ACUTEzcSMALL LETTER M WITH ACUTEzCAPITAL LETTER ",
     "M WITH DOT ABOVEzgSMALL LETTER M WITH DOT ABOVEzeCAPITAL LETTER M WITH DOT BELOWzgSMALL LETT",
     "ER M WITH DOT BELOWzeCAPITAL LETTER N WITH DOT ABOVEzgSMALL LETTER N WITH DOT ABOVEzeCAPITAL",
     " LETTER N WITH DOT BELOWzgSMALL LETTER N WITH DOT BELOWzeCAPITAL LETTER N WITH LINE BELOWzhS",
     "MALL LETTER N WITH LINE BELOWzfCAPITAL LETTER N WITH CIRCUMFLEX BELOWznSMALL LETTER N WITH C",
     "IRCUMFLEX BELOWzlCAPITAL LETTER O WITH TILDE AND ACUTEzmSMALL LETTER O WITH TILDE AND ACUTEz",
     "kCAPITAL LETTER O WITH TILDE AND DIAERESISzqSMALL LETTER O WITH TILDE AND DIAERESISzoCAPITAL",
     " LETTER O WITH MACRON AND GRAVEznSMALL LETTER O WITH MACRON AND GRAVEzlCAPITAL LETTER O WITH",
     " MACRON AND ACUTEznSMALL LETTER O WITH MACRON AND ACUTEzlCAPITAL LETTER P WITH ACUTEzcSMALL ",
     "LETTER P WITH ACUTEzCAPITAL LETTER P WITH DOT ABOVEzgSMALL LETTER P WITH DOT ABOVEzeCAPITAL ",
     "LETTER R WITH DOT ABOVEzgSMALL LETTER R WITH DOT ABOVEzeCAPITAL LETTER R WITH DOT BELOWzgSMA",
     "LL LETTER R WITH DOT BELOWzeCAPITAL LETTER R WITH DOT BELOW AND MACRONzrSMALL LETTER R WITH ",
     "DOT BELOW AND MACRONzpCAPITAL LETTER R WITH LINE BELOWzhSMALL LETTER R WITH LINE BELOWzfCAPI",
     "TAL LETTER S WITH DOT ABOVEzgSMALL LETTER S WITH DOT ABOVEzeCAPITAL LETTER S WITH DOT BELOWz",
     "gSMALL LETTER S WITH DOT BELOWzeCAPITAL LETTER S WITH ACUTE AND DOT ABOVEzqSMALL LETTER S WI",
     "TH ACUTE AND DOT ABOVEzoCAPITAL LETTER S WITH CARON AND DOT ABOVEzqSMALL LETTER S WITH CARON",
     " AND DOT ABOVEzoCAPITAL LETTER S WITH DOT BELOW AND DOT ABOVEzuSMALL LETTER S WITH DOT BELOW",
     " AND DOT ABOVEzsCAPITAL LETTER T WITH DOT ABOVEzgSMALL LETTER T WITH DOT ABOVEzeCAPITAL LETT",
     "ER T WITH DOT BELOWzgSMALL LETTER T WITH DOT BELOWzeCAPITAL LETTER T WITH LINE BELOWzhSMALL ",
     "LETTER T WITH LINE BELOWzfCAPITAL LETTER T WITH CIRCUMFLEX BELOWznSMALL LETTER T WITH CIRCUM",
     "FLEX BELOWzlCAPITAL LETTER U WITH DIAERESIS BELOWzmSMALL LETTER U WITH DIAERESIS BELOWzkCAPI",
     "TAL LETTER U WITH TILDE BELOWziSMALL LETTER U WITH TILDE BELOWzgCAPITAL LETTER U WITH CIRCUM",
     "FLEX BELOWznSMALL LETTER U WITH CIRCUMFLEX BELOWzlCAPITAL LETTER U WITH TILDE AND ACUTEzmSMA",
     "LL LETTER U WITH TILDE AND ACUTEzkCAPITAL LETTER U WITH MACRON AND DIAERESISzrSMALL LETTER U",
     " WITH MACRON AND DIAERESISzpCAPITAL LETTER V WITH TILDEzcSMALL LETTER V WITH TILDEzCAPITAL L",
     "ETTER V WITH DOT BELOWzgSMALL LETTER V WITH DOT BELOWzeCAPITAL LETTER W WITH GRAVEzcSMALL LE",
     "TTER W WITH GRAVEzCAPITAL LETTER W WITH ACUTEzcSMALL LETTER W WITH ACUTEzCAPITAL LETTER W WI",
     "TH DIAERESISzgSMALL LETTER W WITH DIAERESISzeCAPITAL LETTER W WITH DOT ABOVEzgSMALL LETTER W",
     " WITH DOT ABOVEzeCAPITAL LETTER W WITH DOT BELOWzgSMALL LETTER W WITH DOT BELOWzeCAPITAL LET",
     "TER X WITH DOT ABOVEzgSMALL LETTER X WITH DOT ABOVEzeCAPITAL LETTER X WITH DIAERESISzgSMALL ",
     "LETTER X WITH DIAERESISzeCAPITAL LETTER Y WITH DOT ABOVEzgSMALL LETTER Y WITH DOT ABOVEzeCAP",
     "ITAL LETTER Z WITH CIRCUMFLEXzhSMALL LETTER Z WITH CIRCUMFLEXzfCAPITAL LETTER Z WITH DOT BEL",
     "OWzgSMALL LETTER Z WITH DOT BELOWzeCAPITAL LETTER Z WITH LINE BELOWzhSMALL LETTER Z WITH LIN",
     "E BELOWrH WITH LINE BELOWrT WITH DIAERESISqW WITH RING ABOVErY WITH RING ABOVErA WITH RIGHT ",
     "HALF RINGwLONG S WITH DOT ABOVEiIAGONAL STROKEpHIGH STROKEzlCAPITAL LETTER SHARP SwSMALL LET",
     "TER DELTAsCAPITAL LETTER A WITH DOT BELOWzgSMALL LETTER A WITH DOT BELOWzeCAPITAL LETTER A W",
     "ITH HOOK ABOVEzhSMALL LETTER A WITH HOOK ABOVEzfCAPITAL LETTER A WITH CIRCUMFLEX AND ACUTEzr",
     "SMALL LETTER A WITH CIRCUMFLEX AND ACUTEzpCAPITAL LETTER A WITH CIRCUMFLEX AND GRAVEzrSMALL ",
     "LETTER A WITH CIRCUMFLEX AND GRAVEzpCAPITAL LETTER A WITH CIRCUMFLEX AND HOOK ABOVEzwSMALL L",
     "ETTER A WITH CIRCUMFLEX AND HOOK ABOVEzuCAPITAL LETTER A WITH CIRCUMFLEX AND TILDEzrSMALL LE",
     "TTER A WITH CIRCUMFLEX AND TILDEzpCAPITAL LETTER A WITH CIRCUMFLEX AND DOT BELOWzvSMALL LETT",
     "ER A WITH CIRCUMFLEX AND DOT BELOWztCAPITAL LETTER A WITH BREVE AND ACUTEzmSMALL LETTER A WI",
     "TH BREVE AND ACUTEzkCAPITAL LETTER A WITH BREVE AND GRAVEzmSMALL LETTER A WITH BREVE AND GRA",
     "VEzkCAPITAL LETTER A WITH BREVE AND HOOK ABOVEzrSMALL LETTER A WITH BREVE AND HOOK ABOVEzpCA",
     "PITAL LETTER A WITH BREVE AND TILDEzmSMALL LETTER A WITH BREVE AND TILDEzkCAPITAL LETTER A W",
     "ITH BREVE AND DOT BELOWzqSMALL LETTER A WITH BREVE AND DOT BELOWzoCAPITAL LETTER E WITH DOT ",
     "BELOWzgSMALL LETTER E WITH DOT BELOWzeCAPITAL LETTER E WITH HOOK ABOVEzhSMALL LETTER E WITH ",
     "HOOK ABOVEzfCAPITAL LETTER E WITH TILDEzcSMALL LETTER E WITH TILDEzCAPITAL LETTER E WITH CIR",
     "CUMFLEX AND ACUTEzrSMALL LETTER E WITH CIRCUMFLEX AND ACUTEzpCAPITAL LETTER E WITH CIRCUMFLE",
     "X AND GRAVEzrSMALL LETTER E WITH CIRCUMFLEX AND GRAVEzpCAPITAL LETTER E WITH CIRCUMFLEX AND ",
     "HOOK ABOVEzwSMALL LETTER E WITH CIRCUMFLEX AND HOOK ABOVEzuCAPITAL LETTER E WITH CIRCUMFLEX ",
     "AND TILDEzrSMALL LETTER E WITH CIRCUMFLEX AND TILDEzpCAPITAL LETTER E WITH CIRCUMFLEX AND DO",
     "T BELOWzvSMALL LETTER E WITH CIRCUMFLEX AND DOT BELOWztCAPITAL LETTER I WITH HOOK ABOVEzhSMA",
     "LL LETTER I WITH HOOK ABOVEzfCAPITAL LETTER I WITH DOT BELOWzgSMALL LETTER I WITH DOT BELOWz",
     "eCAPITAL LETTER O WITH DOT BELOWzgSMALL LETTER O WITH DOT BELOWzeCAPITAL LETTER O WITH HOOK ",
     "ABOVEzhSMALL LETTER O WITH HOOK ABOVEzfCAPITAL LETTER O WITH CIRCUMFLEX AND ACUTEzrSMALL LET",
     "TER O WITH CIRCUMFLEX AND ACUTEzpCAPITAL LETTER O WITH CIRCUMFLEX AND GRAVEzrSMALL LETTER O ",
     "WITH CIRCUMFLEX AND GRAVEzpCAPITAL LETTER O WITH CIRCUMFLEX AND HOOK ABOVEzwSMALL LETTER O W",
     "ITH CIRCUMFLEX AND HOOK ABOVEzuCAPITAL LETTER O WITH CIRCUMFLEX AND TILDEzrSMALL LETTER O WI",
     "TH CIRCUMFLEX AND TILDEzpCAPITAL LETTER O WITH CIRCUMFLEX AND DOT BELOWzvSMALL LETTER O WITH",
     " CIRCUMFLEX AND DOT BELOWztCAPITAL LETTER O WITH HORN AND ACUTEzlSMALL LETTER O WITH HORN AN",
     "D ACUTEzjCAPITAL LETTER O WITH HORN AND GRAVEzlSMALL LETTER O WITH HORN AND GRAVEzjCAPITAL L",
     "ETTER O WITH HORN AND HOOK ABOVEzqSMALL LETTER O WITH HORN AND HOOK ABOVEzoCAPITAL LETTER O ",
     "WITH HORN AND TILDEzlSMALL LETTER O WITH HORN AND TILDEzjCAPITAL LETTER O WITH HORN AND DOT ",
     "BELOWzpSMALL LETTER O WITH HORN AND DOT BELOWznCAPITAL LETTER U WITH DOT BELOWzgSMALL LETTER",
     " U WITH DOT BELOWzeCAPITAL LETTER U WITH HOOK ABOVEzhSMALL LETTER U WITH HOOK ABOVEzfCAPITAL",
     " LETTER U WITH HORN AND ACUTEzlSMALL LETTER U WITH HORN AND ACUTEzjCAPITAL LETTER U WITH HOR",
     "N AND GRAVEzlSMALL LETTER U WITH HORN AND GRAVEzjCAPITAL LETTER U WITH HORN AND HOOK ABOVEzq",
     "SMALL LETTER U WITH HORN AND HOOK ABOVEzoCAPITAL LETTER U WITH HORN AND TILDEzlSMALL LETTER ",
     "U WITH HORN AND TILDEzjCAPITAL LETTER U WITH HORN AND DOT BELOWzpSMALL LETTER U WITH HORN AN",
     "D DOT BELOWznCAPITAL LETTER Y WITH GRAVEzcSMALL LETTER Y WITH GRAVEzCAPITAL LETTER Y WITH DO",
     "T BELOWzgSMALL LETTER Y WITH DOT BELOWzeCAPITAL LETTER Y WITH HOOK ABOVEzhSMALL LETTER Y WIT",
     "H HOOK ABOVEzfCAPITAL LETTER Y WITH TILDEzcSMALL LETTER Y WITH TILDEzCAPITAL LETTER MIDDLE-W",
     "ELSH LLzfSMALL LETTER MIDDLE-WELSH LLzdCAPITAL LETTER MIDDLE-WELSH VzeSMALL LETTER MIDDLE-WE",
     "LSH VzcCAPITAL LETTER Y WITH LOOPzbSMALL LETTER Y WITH LOOPzfGREEK SMALL LETTER ALPHA WITH P",
     "SILIfDASIAfPSILI AND VARIApDASIA AND VARIApPSILI AND OXIAoDASIA AND OXIAoPSILI AND PERISPOME",
     "NIvDASIA AND PERISPOMENIzuCAPITAL LETTER ALPHA WITH PSILIfDASIAfPSILI AND VARIApDASIA AND VA",
     "RIApPSILI AND OXIAoDASIA AND OXIAoPSILI AND PERISPOMENIvDASIA AND PERISPOMENIzwSMALL LETTER ",
     "EPSILON WITH PSILIfDASIAfPSILI AND VARIApDASIA AND VARIApPSILI AND OXIAoDASIA AND OXIA"]⟩,
  ⟨0x1F18, ["GREEK CAPITAL LETTER EPSILON WITH PSILIfDASIAfPSILI AND VARIApDASIA AND VARIApPSILI A",
     "ND OXIAoDASIA AND OXIA"]⟩,
  ⟨0x1F20, ["GREEK SMALL LETTER ETA WITH PSILIfDASIAfPSILI AND VARIApDASIA AND VARIApPSILI AND OXI",
     "AoDASIA AND OXIAoPSILI AND PERISPOMENIvDASIA AND PERISPOMENIzsCAPITAL LETTER ETA WITH PSILIf",
     "DASIAfPSILI AND VARIApDASIA AND VARIApPSILI AND OXIAoDASIA AND OXIAoPSILI AND PERISPOMENIvDA",
     "SIA AND PERISPOMENIzuSMALL LETTER IOTA WITH PSILIfDASIAfPSILI AND VARIApDASIA AND VARIApPSIL",
     "I AND OXIAoDASIA AND OXIAoPSILI AND PERISPOMENIvDASIA AND PERISPOMENIztCAPITAL LETTER IOTA W",
     "ITH PSILIfDASIAfPSILI AND VARIApDASIA AND VARIApPSILI AND OXIAoDASIA AND OXIAoPSILI AND PERI",
     "SPOMENIvDASIA AND PERISPOMENIzvSMALL LETTER OMICRON WITH PSILIfDASIAfPSILI AND VARIApDASIA A",
     "ND VARIApPSILI AND OXIAoDASIA AND OXIA"]⟩,
  ⟨0x1F48, ["GREEK CAPITAL LETTER OMICRON WITH PSILIfDASIAfPSILI AND VARIApDASIA AND VARIApPSILI A",
     "ND OXIAoDASIA AND OXIA"]⟩,
  ⟨0x1F50, ["GREEK SMALL LETTER UPSILON WITH PSILIfDASIAfPSILI AND VARIApDASIA AND VARIApPSILI AND",
     " OXIAoDASIA AND OXIAoPSILI AND PERISPOMENIvDASIA AND PERISPOMENI"]⟩,
  ⟨0x1F59, ["GREEK CAPITAL LETTER UPSILON WITH DASIA"]⟩,
  ⟨0x1F5B, ["GREEK CAPITAL LETTER UPSILON WITH DASIA AND VARIA"]⟩,
  ⟨0x1F5D, ["GREEK CAPITAL LETTER UPSILON WITH DASIA AND OXIA"]⟩,
  ⟨0x1F5F, ["GREEK CAPITAL LETTER UPSILON WITH DASIA AND PERISPOMENIzySMALL LETTER OMEGA WITH PSIL",
     "IfDASIAfPSILI AND VARIApDASIA AND VARIApPSILI AND OXIAoDASIA AND OXIAoPSILI AND PERISPOMENIv",
     "DASIA AND PERISPOMENIzuCAPITAL LETTER OMEGA WITH PSILIfDASIAfPSILI AND VARIApDASIA AND VARIA",
     "pPSILI AND OXIAoDASIA AND OXIAoPSILI AND PERISPOMENIvDASIA AND PERISPOMENIzwSMALL LETTER ALP",
     "HA WITH VARIAfOXIApEPSILON WITH VARIAfOXIAqTA WITH VARIAfOXIAnIOTA WITH VARIAfOXIAoOMICRON W",
     "ITH VARIAfOXIArUPSILON WITH VARIAfOXIArOMEGA WITH VARIAfOXIA"]⟩,
  ⟨0x1F80, ["GREEK SMALL LETTER ALPHA WITH PSILI AND YPOGEGRAMMENIxDASIA AND YPOGEGRAMMENIxPSILI A",
     "ND VARIA AND YPOGEGRAMMENIziDASIA AND VARIA AND YPOGEGRAMMENIziPSILI AND OXIA AND YPOGEGRAMM",
     "ENIzhDASIA AND OXIA AND YPOGEGRAMMENIzhPSILI AND PERISPOMENI AND YPOGEGRAMMENIzoDASIA AND PE",
     "RISPOMENI AND YPOGEGRAMMENIzznCAPITAL LETTER ALPHA WITH PSILI AND PROSGEGRAMMENIyDASIA AND P",
     "ROSGEGRAMMENIyPSILI AND VARIA AND PROSGEGRAMMENIzjDASIA AND VARIA AND PROSGEGRAMMENIzjPSILI ",
     "AND OXIA AND PROSGEGRAMMENIziDASIA AND OXIA AND PROSGEGRAMMENIziPSILI AND PERISPOMENI AND PR",
     "OSGEGRAMMENIzpDASIA AND PERISPOMENI AND PROSGEGRAMMENIzzqSMALL LETTER ETA WITH PSILI AND YPO",
     "GEGRAMMENIxDASIA AND YPOGEGRAMMENIxPSILI AND VARIA AND YPOGEGRAMMENIziDASIA AND VARIA AND YP",
     "OGEGRAMMENIziPSILI AND OXIA AND YPOGEGRAMMENIzhDASIA AND OXIA AND YPOGEGRAMMENIzhPSILI AND P",
     "ERISPOMENI AND YPOGEGRAMMENIzoDASIA AND PERISPOMENI AND YPOGEGRAMMENIzzlCAPITAL LETTER ETA W",
     "ITH PSILI AND PROSGEGRAMMENIyDASIA AND PROSGEGRAMMENIyPSILI AND VARIA AND PROSGEGRAMMENIzjDA",
     "SIA AND VARIA AND PROSGEGRAMMENIzjPSILI AND OXIA AND PROSGEGRAMMENIziDASIA AND OXIA AND PROS",
     "GEGRAMMENIziPSILI AND PERISPOMENI AND PROSGEGRAMMENIzpDASIA AND PERISPOMENI AND PROSGEGRAMME",
     "NIzzoSMALL LETTER OMEGA WITH PSILI AND YPOGEGRAMMENIxDASIA AND YPOGEGRAMMENIxPSILI AND VARIA",
     " AND YPOGEGRAMMENIziDASIA AND VARIA AND YPOGEGRAMMENIziPSILI AND OXIA AND YPOGEGRAMMENIzhDAS",
     "IA AND OXIA AND YPOGEGRAMMENIzhPSILI AND PERISPOMENI AND YPOGEGRAMMENIzoDASIA AND PERISPOMEN",
     "I AND YPOGEGRAMMENIzznCAPITAL LETTER OMEGA WITH PSILI AND PROSGEGRAMMENIyDASIA AND PROSGEGRA",
     "MMENIyPSILI AND VARIA AND PROSGEGRAMMENIzjDASIA AND VARIA AND PROSGEGRAMMENIzjPSILI AND OXIA",
     " AND PROSGEGRAMMENIziDASIA AND OXIA AND PROSGEGRAMMENIziPSILI AND PERISPOMENI AND PROSGEGRAM",
     "MENIzpDASIA AND PERISPOMENI AND PROSGEGRAMMENIzzqSMALL LETTER ALPHA WITH VRACHYgMACRONgVARIA",
     " AND YPOGEGRAMMENIxYPOGEGRAMMENInOXIA AND YPOGEGRAMMENI"]⟩,
  ⟨0x1FB6, ["GREEK SMALL LETTER ALPHA WITH PERISPOMENIa AND YPOGEGRAMMENIzzdCAPITAL LETTER ALPHA W",
     "ITH VRACHYgMACRONgVARIAfOXIAePROSGEGRAMMENIzpKORONIShPROSGEGRAMMENInSILIeERISPOMENIlDIALYTIK",
     "A AND PERISPOMENIzSMALL LETTER ETA WITH VARIA AND YPOGEGRAMMENIxYPOGEGRAMMENInOXIA AND YPOGE",
     "GRAMMENI"]⟩,
  ⟨0x1FC6, ["GREEK SMALL LETTER ETA WITH PERISPOMENIa AND YPOGEGRAMMENIzzbCAPITAL LETTER EPSILON W",
     "ITH VARIAfOXIAqTA WITH VARIAfOXIAePROSGEGRAMMENIznPSILI AND VARIAfOXIAePERISPOMENIvSMALL LET",
     "TER IOTA WITH VRACHYgMACRONgDIALYTIKA AND VARIAfOXIA"]⟩,
  ⟨0x1FD6, ["GREEK SMALL LETTER IOTA WITH PERISPOMENIlDIALYTIKA AND PERISPOMENIzxCAPITAL LETTER IO",
     "TA WITH VRACHYgMACRONgVARIAfOXIA"]⟩,
  ⟨0x1FDD, ["GREEK DASIA AND VARIAfOXIAePERISPOMENIvSMALL LETTER UPSILON WITH VRACHYgMACRONgDIALYT",
     "IKA AND VARIAfOXIAzgRHO WITH PSILIfDASIAoUPSILON WITH PERISPOMENIlDIALYTIKA AND PERISPOMENIz",
     "zbCAPITAL LETTER UPSILON WITH VRACHYgMACRONgVARIAfOXIArRHO WITH DASIAzeDIALYTIKA AND VARIAfO",
     "XIAsVARIA"]⟩,
  ⟨0x1FF2, ["GREEK SMALL LETTER OMEGA WITH VARIA AND YPOGEGRAMMENIxYPOGEGRAMMENInOXIA AND YPOGEGRA",
     "MMENI"]⟩,
  ⟨0x1FF6, ["GREEK SMALL LETTER OMEGA WITH PERISPOMENIa AND YPOGEGRAMMENIzzdCAPITAL LETTER OMICRON",
     " WITH VARIAfOXIApEGA WITH VARIAfOXIAePROSGEGRAMMENIzpOXIAeDASIA"]⟩,
  ⟨0x2000, ["EN QUADgM QUADgN SPACEhM SPACEiTHREE-PER-EM SPACEsFOUR-PER-EM SPACErSIX-PER-EM SPACEq",
     "FIGURE SPACEmPUNCTUATION SPACErTHIN SPACEkHAIR SPACEkZERO WIDTH SPACEfNON-JOINERkJOINERrLEFT",
     "-TO-RIGHT MARKsRIGHT-TO-LEFT MARKsHYPHENgNON-BREAKING HYPHENtFIGURE DASHlEN DASHgM DASHhHORI",
     "ZONTAL BARoDOUBLE VERTICAL LINEnLOW LINEpLEFT SINGLE QUOTATION MARKzbRIGHT SINGLE QUOTATION ",
     "MARKzcSINGLE LOW-9 QUOTATION MARKuHIGH-REVERSED-9 QUOTATION MARKzmLEFT DOUBLE QUOTATION MARK",
     "zbRIGHT DOUBLE QUOTATION MARKzcDOUBLE LOW-9 QUOTATION MARKuHIGH-REVERSED-9 QUOTATION MARKzlA",
     "GGERfOUBLE DAGGERnBULLETgTRIANGULAR BULLETrONE DOT LEADERoTWO DOT LEADERoHORIZONTAL ELLIPSIS",
     "sYPHENATION POINTrLINE SEPARATORoPARAGRAPH SEPARATORtLEFT-TO-RIGHT EMBEDDINGxRIGHT-TO-LEFT E",
     "MBEDDINGxPOP DIRECTIONAL FORMATTINGzbLEFT-TO-RIGHT OVERRIDEwRIGHT-TO-LEFT OVERRIDEwNARROW NO",
     "-BREAK SPACEvPER MILLE SIGNkTEN THOUSAND SIGNuRIMEfDOUBLE PRIMEmTRIPLE PRIMEmREVERSED PRIMEf",
     "DOUBLE PRIMEmTRIPLE PRIMEvCARETfSINGLE LEFT-POINTING ANGLE QUOTATION MARKzjRIGHT-POINTING AN",
     "GLE QUOTATION MARKzrREFERENCE MARKoDOUBLE EXCLAMATION MARKxINTERROBANGlOVERLINEiUNDERTIEiCHA",
     "RACTER TIEmARET INSERTION POINTvASTERISMiHYPHEN BULLETnFRACTION SLASHoLEFT SQUARE BRACKET WI",
     "TH QUILLzfRIGHT SQUARE BRACKET WITH QUILLzgDOUBLE QUESTION MARKuQUESTION EXCLAMATION MARKzEX",
     "CLAMATION QUESTION MARKzTIRONIAN SIGN ETqREVERSED PILCROW SIGNvBLACK LEFTWARDS BULLETqRIGHTW",
     "ARDS BULLETxLOW ASTERISKmREVERSED SEMICOLONsCLOSE UPiTWO ASTERISKS ALIGNED VERTICALLYzhCOMME",
     "RCIAL MINUS SIGNvSWUNG DASHkINVERTED UNDERTIErFLOWER PUNCTUATION MARKxTHREE DOT PUNCTUATIONv",
     "QUADRUPLE PRIMEpFOUR DOT PUNCTUATIONtIVE DOT PUNCTUATIONuTWO DOT PUNCTUATIONtFOUR DOT MARKnD",
     "OTTED CROSSmTRICOLONiVERTICAL FOUR DOTSsMEDIUM MATHEMATICAL SPACEzWORD JOINERlFUNCTION APPLI",
     "CATIONuINVISIBLE TIMESfSEPARATORjPLUS"]⟩,
  ⟨0x2066, ["LEFT-TO-RIGHT ISOLATEvRIGHT-TO-LEFT ISOLATEvFIRST STRONG ISOLATEuPOP DIRECTIONAL ISOL",
     "ATExINHIBIT SYMMETRIC SWAPPINGzbACTIVATE SYMMETRIC SWAPPINGzcINHIBIT ARABIC FORM SHAPINGzcAC",
     "TIVATE ARABIC FORM SHAPINGzdNATIONAL DIGIT SHAPESuOMINAL DIGIT SHAPESuSUPERSCRIPT ZEROeLATIN",
     " SMALL LETTER I"]⟩,
  ⟨0x2074, ["SUPERSCRIPT FOURdIVEeSIXcEVENfEIGHTfNINEePLUS SIGNjMINUSfEQUALS SIGNlLEFT PARENTHESIS",
     "qRIGHT PARENTHESISrLATIN SMALL LETTER NzfBSCRIPT ZEROeONEdTWOcHREEfFOURdIVEeSIXcEVENfEIGHTfN",
     "INEePLUS SIGNjMINUSfEQUALS SIGNlLEFT PARENTHESISqRIGHT PARENTHESIS"]⟩,
  ⟨0x2090, ["LATIN SUBSCRIPT SMALL LETTER AbEbObXbSCHWAfHbKbLbMbNbPbSbT"]⟩,
  ⟨0x20A0, ["EURO-CURRENCY SIGNsCOLON SIGNjRUZEIRO SIGNnFRENCH FRANC SIGNrLIRA SIGNjMILL SIGNjNAIR",
     "A SIGNkPESETA SIGNlRUPEE SIGNkWON SIGNiNEW SHEQEL SIGNpDONG SIGNjEURO SIGNjKIP SIGNiTUGRIK S",
     "IGNlDRACHMA SIGNmGERMAN PENNY SIGNrPESO SIGNjGUARANI SIGNmAUSTRAL SIGNmHRYVNIA SIGNmCEDI SIG",
     "NjLIVRE TOURNOIS SIGNtSPESMILO SIGNnTENGE SIGNkINDIAN RUPEE SIGNrTURKISH LIRA SIGNrNORDIC MA",
     "RK SIGNqMANAT SIGNkRUBLE SIGNkLARI SIGNjBITCOIN SIGNmSOM SIGN"]⟩,
  ⟨0x20D0, ["COMBINING LEFT HARPOON ABOVEsRIGHT HARPOON ABOVEtLONG VERTICAL LINE OVERLAYzbSHORT VE",
     "RTICAL LINE OVERLAYzcANTICLOCKWISE ARROW ABOVEzCLOCKWISE ARROW ABOVEvLEFT ARROW ABOVEqRIGHT ",
     "ARROW ABOVEpNG OVERLAYmCLOCKWISE RING OVERLAYwANTICLOCKWISE RING OVERLAYzbTHREE DOTS ABOVEqF",
     "OUR DOTS ABOVEpENCLOSING CIRCLEgSQUAREgDIAMONDhCIRCLE BACKSLASHzbLEFT RIGHT ARROW ABOVEwENCL",
     "OSING SCREENgKEYCAPgUPWARD POINTING TRIANGLEzjREVERSE SOLIDUS OVERLAYxDOUBLE VERTICAL STROKE",
     " OVERLAYzfANNUITY SYMBOLoTRIPLE UNDERDOTpWIDE BRIDGE ABOVErLEFTWARDS ARROW OVERLAYwONG DOUBL",
     "E SOLIDUS OVERLAYzcRIGHTWARDS HARPOON WITH BARB DOWNWARDSznLEFTWARDS HARPOON WITH BARB DOWNW",
     "ARDSzi ARROW BELOWqRIGHT ARROW BELOWrASTERISK ABOVE"]⟩,
  ⟨0x2100, ["ACCOUNT OFjDDRESSED TO THE SUBJECTyDOUBLE-STRUCK CAPITAL CwEGREE CELSIUSoCENTRE LINE ",
     "SYMBOLrARE OFfDA UNAiEULER CONSTANToSCRUPLEhDEGREE FAHRENHEITrSCRIPT SMALL GhCAPITAL HqBLACK",
     "-LETTER CAPITAL HwDOUBLE-STRUCK CAPITAL HxPLANCK CONSTANTa OVER TWO PIzcSCRIPT CAPITAL IqBLA",
     "CK-LETTER CAPITAL IwSCRIPT CAPITAL LjSMALL LoL B BAR SYMBOLoDOUBLE-STRUCK CAPITAL NxNUMERO S",
     "IGNlSOUND RECORDING COPYRIGHTyCRIPT CAPITAL PqDOUBLE-STRUCK CAPITAL PbQxSCRIPT CAPITAL RqBLA",
     "CK-LETTER CAPITAL RwDOUBLE-STRUCK CAPITAL RxPRESCRIPTION TAKErRESPONSEiSERVICE MARKmTELEPHON",
     "E SIGNnRADE MARK SIGNpVERSICLEiDOUBLE-STRUCK CAPITAL ZxOUNCE SIGNjHM SIGNiINVERTED OHM SIGNr",
     "BLACK-LETTER CAPITAL ZwTURNED GREEK SMALL LETTER IOTAzfKELVIN SIGNlANGSTROM SIGNnSCRIPT CAPI",
     "TAL BqBLACK-LETTER CAPITAL CwESTIMATED SYMBOLqSCRIPT SMALL EhCAPITAL EbFqTURNED CAPITAL FqSC",
     "RIPT CAPITAL MjSMALL OoALEF SYMBOLlBET SYMBOLkGIMEL SYMBOLmDALET SYMBOLmINFORMATION SOURCEsR",
     "OTATED CAPITAL QrFACSIMILE SIGNoDOUBLE-STRUCK SMALL PIcGAMMAlCAPITAL GAMMAfPIkN-ARY SUMMATIO",
     "NzeTURNED SANS-SERIF CAPITAL GbLzcREVERSED SANS-SERIF CAPITAL LzeTURNED SANS-SERIF CAPITAL Y",
     "zcDOUBLE-STRUCK ITALIC CAPITAL DjSMALL DbEbIbJzdPROPERTY LINEnTURNED AMPERSANDqPER SIGNiAKTI",
     "ESELSKABmTURNED SMALL FoSYMBOL FOR SAMARITAN SOURCEzcVULGAR FRACTION ONE SEVENTHhNINTHfTENTH",
     "eHIRDjTWO THIRDSkONE FIFTHjTWO FIFTHSjHREE FIFTHSmFOUR FIFTHSlONE SIXTHjFIVE SIXTHSlONE EIGH",
     "THkTHREE EIGHTHSnFIVE EIGHTHSmSEVEN EIGHTHSzeFRACTION NUMERATOR ONEwROMAN NUMERAL ONEdTWOcHR",
     "EEfFOURdIVEeSIXcEVENfEIGHTfNINEeTENdELEVENgTWELVEgFIFTYfONE HUNDREDlFIVE HUNDREDmONE THOUSAN",
     "DzbSMALL ROMAN NUMERAL ONEdTWOcHREEfFOURdIVEeSIXcEVENfEIGHTfNINEeTENdELEVENgTWELVEgFIFTYfONE",
     " HUNDREDlFIVE HUNDREDmONE THOUSANDzhROMAN NUMERAL ONE THOUSAND C DqFIVE THOUSANDnTEN THOUSAN",
     "DmREVERSED ONE HUNDREDzjLATIN SMALL LETTER REVERSED CzeROMAN NUMERAL SIX LATE FORMnFIFTY EAR",
     "LY FORMkTHOUSANDoONE HUNDRED THOUSANDzjVULGAR FRACTION ZERO THIRDSzcTURNED DIGIT TWOcHREE"]⟩,
  ⟨0x2190, ["LEFTWARDS ARROWpUPWARDS ARROWnRIGHTWARDS ARROWqDOWNWARDS ARROWpLEFT RIGHT ARROWqUP DO",
     "WN ARROWnNORTH WEST ARROWkEAST ARROWqSOUTH EAST ARROWkWEST ARROWqLEFTWARDS ARROW WITH STROKE",
     "zcRIGHTWARDS ARROW WITH STROKEzdLEFTWARDS WAVE ARROWuRIGHTWARDS WAVE ARROWvLEFTWARDS TWO HEA",
     "DED ARROWzbUPWARDS TWO HEADED ARROWyRIGHTWARDS TWO HEADED ARROWzcDOWNWARDS TWO HEADED ARROWz",
     "bLEFTWARDS ARROW WITH TAILzRIGHTWARDS ARROW WITH TAILzbLEFTWARDS ARROW FROM BARyUPWARDS ARRO",
     "W FROM BARwRIGHTWARDS ARROW FROM BARzDOWNWARDS ARROW FROM BARyUP DOWN ARROW WITH BASExLEFTWA",
     "RDS ARROW WITH HOOKzRIGHTWARDS ARROW WITH HOOKzbLEFTWARDS ARROW WITH LOOPzRIGHTWARDS ARROW W",
     "ITH LOOPzbLEFT RIGHT WAVE ARROWkARROW WITH STROKEzdDOWNWARDS ZIGZAG ARROWwUPWARDS ARROW WITH",
     " TIP LEFTWARDSjRIGHTWARDSziDOWNWARDS ARROW WITH TIP LEFTWARDSjRIGHTWARDSzkRIGHTWARDS ARROW W",
     "ITH CORNER DOWNWARDSznDOWNWARDS ARROW WITH CORNER LEFTWARDSzmANTICLOCKWISE TOP SEMICIRCLE AR",
     "ROWzjCLOCKWISE TOP SEMICIRCLE ARROWzfNORTH WEST ARROW TO LONG BARzdLEFTWARDS ARROW TO BAR OV",
     "ER RIGHTWARDS ARROW TO BARzzbANTICLOCKWISE OPEN CIRCLE ARROWzgCLOCKWISE OPEN CIRCLE ARROWzcL",
     "EFTWARDS HARPOON WITH BARB UPWARDShDOWNWARDSzmUPWARDS HARPOON WITH BARB RIGHTWARDSkLEFTWARDS",
     "zkRIGHTWARDS HARPOON WITH BARB UPWARDShDOWNWARDSznDOWNWARDS HARPOON WITH BARB RIGHTWARDSkLEF",
     "TWARDSzmRIGHTWARDS ARROW OVER LEFTWARDS ARROWzmUPWARDS ARROW LEFTWARDS OF DOWNWARDS ARROWzrL",
     "EFTWARDS ARROW OVER RIGHTWARDS ARROWzcPAIRED ARROWSxUPWARDS PAIRED ARROWSvRIGHTWARDS PAIRED ",
     "ARROWSyDOWNWARDS PAIRED ARROWSxLEFTWARDS HARPOON OVER RIGHTWARDS HARPOONzqRIGHTWARDS HARPOON",
     " OVER LEFTWARDS HARPOONzqLEFTWARDS DOUBLE ARROW WITH STROKEzf RIGHT DOUBLE ARROW WITH STROKE",
     "zkRIGHTWARDS DOUBLE ARROW WITH STROKEzkLEFTWARDS DOUBLE ARROWwUPWARDS DOUBLE ARROWuRIGHTWARD",
     "S DOUBLE ARROWxDOWNWARDS DOUBLE ARROWwLEFT RIGHT DOUBLE ARROWxUP DOWN DOUBLE ARROWuNORTH WES",
     "T DOUBLE ARROWrEAST DOUBLE ARROWxSOUTH EAST DOUBLE ARROWrWEST DOUBLE ARROWxLEFTWARDS TRIPLE ",
     "ARROWwRIGHTWARDS TRIPLE ARROWxLEFTWARDS SQUIGGLE ARROWyRIGHTWARDS SQUIGGLE ARROWzUPWARDS ARR",
     "OW WITH DOUBLE STROKEzhDOWNWARDS ARROW WITH DOUBLE STROKEzjLEFTWARDS DASHED ARROWwUPWARDS DA",
     "SHED ARROWuRIGHTWARDS DASHED ARROWxDOWNWARDS DASHED ARROWwLEFTWARDS ARROW TO BARwRIGHTWARDS ",
     "ARROW TO BARxLEFTWARDS WHITE ARROWvUPWARDS WHITE ARROWtRIGHTWARDS WHITE ARROWwDOWNWARDS WHIT",
     "E ARROWvUPWARDS WHITE ARROW FROM BARiON PEDESTALa WITH HORIZONTAL BARoVERTICAL BARzkDOUBLE A",
     "RROWa ON PEDESTALznRIGHTWARDS WHITE ARROW FROM WALLzhNORTH WEST ARROW TO CORNERzbSOUTH EAST ",
     "ARROW TO CORNERzbUP DOWN WHITE ARROWtRIGHT ARROW WITH SMALL CIRCLEzeDOWNWARDS ARROW LEFTWARD",
     "S OF UPWARDS ARROWzrTHREE RIGHTWARDS ARROWSxLEFTWARDS ARROW WITH VERTICAL STROKEzlRIGHTWARDS",
     " ARROW WITH VERTICAL STROKEzmLEFT RIGHT ARROW WITH VERTICAL STROKEziWARDS ARROW WITH DOUBLE ",
     "VERTICAL STROKEzsRIGHTWARDS ARROW WITH DOUBLE VERTICAL STROKEztLEFT RIGHT ARROW WITH DOUBLE ",
     "VERTICAL STROKEzpWARDS OPEN-HEADED ARROWzcRIGHTWARDS OPEN-HEADED ARROWzdLEFT RIGHT OPEN-HEAD",
     "ED ARROWzdFOR ALLhCOMPLEMENTkPARTIAL DIFFERENTIALuTHERE EXISTSgDOES NOT EXISTuEMPTY SETjINCR",
     "EMENTjNABLAfELEMENT OFkNOT AN ELEMENT OFrSMALL ELEMENT OFqCONTAINS AS MEMBERsDOES NOT CONTAI",
     "N AS MEMBERzbSMALL CONTAINS AS MEMBERyEND OF PROOFmN-ARY PRODUCThCOPRODUCTjSUMMATIONpMINUS S",
     "IGNf-OR-PLUS SIGNsDOT PLUShIVISION SLASHoSET MINUSjASTERISK OPERATORrRING OPERATORnBULLET OP",
     "ERATORpSQUARE ROOTlCUBE ROOTjFOURTH ROOTlPROPORTIONAL TOpINFINITYiRIGHT ANGLElANGLEfMEASURED",
     " ANGLEoSPHERICAL ANGLEpDIVIDESgOES NOT DIVIDEpPARALLEL TOlNOT PARALLEL TOpLOGICAL ANDdORkINT",
     "ERSECTIONmUNIONfINTEGRALiDOUBLE INTEGRALpTRIPLE INTEGRALpCONTOUR INTEGRALqSURFACE INTEGRALqV",
     "OLUME INTEGRALpCLOCKWISE INTEGRALiCONTOUR INTEGRALzbANTICLOCKWISE CONTOUR INTEGRALzfTHEREFOR",
     "EjBECAUSEhRATIOfPROPORTIONkDOT MINUSjEXCESSgGEOMETRIC PROPORTIONuHOMOTHETICkTILDE OPERATORoR",
     "EVERSED TILDEoINVERTED LAZY SpSINE WAVEjWREATH PRODUCToNOT TILDEjMINUS TILDElASYMPTOTICALLY ",
     "EQUAL TOxNOT ASYMPTOTICALLY EQUAL TOzcAPPROXIMATELY EQUAL TOiBUT NOT ACTUALLY EQUAL TOzoNEIT",
     "HER APPROXIMATELY NOR ACTUALLY EQUAL TOzsALMOST EQUAL TOpNOT ALMOST EQUAL TOtALMOST EQUAL OR",
     " EQUAL TOyTRIPLE TILDEmALL EQUAL TOmEQUIVALENT TOnGEOMETRICALLY EQUIVALENT TOzcDIFFERENCE BE",
     "TWEENsAPPROACHES THE LIMITuGEOMETRICALLY EQUAL TOwAPPROXIMATELY EQUAL TO OR THE IMAGE OFznIM",
     "AGE OF OR APPROXIMATELY EQUAL TOzjCOLON EQUALSmEQUALS COLONmRING IN EQUAL TOlEQUAL TOnCORRES",
     "PONDS TOoESTIMATESiQUIANGULAR TOoSTAR EQUALSlDELTA EQUAL TOoEQUAL TO BY DEFINITIONwMEASURED ",
     "BYlQUESTIONED EQUAL TOtNOT EQUAL TOmIDENTICAL TOmNOT IDENTICAL TOqSTRICTLY EQUIVALENT TOwLES",
     "S-THAN OR EQUAL TOvGREATER-THAN OR EQUAL TOyLESS-THAN OVER EQUAL TOxGREATER-THAN OVER EQUAL ",
     "TOzbLESS-THAN BUT NOT EQUAL TOzbGREATER-THAN BUT NOT EQUAL TOzeMUCH LESS-THANjGREATER-THANrB",
     "ETWEENhNOT EQUIVALENT TOnLESS-THANjGREATER-THANpEITHER LESS-THAN NOR EQUAL TOwGREATER-THAN N",
     "OR EQUAL TOziLESS-THAN OR EQUIVALENT TOzbGREATER-THAN OR EQUIVALENT TOzeNEITHER LESS-THAN NO",
     "R EQUIVALENT TOzcGREATER-THAN NOR EQUIVALENT TOznLESS-THAN OR GREATER-THANzGREATER-THAN OR L",
     "ESS-THANzNEITHER LESS-THAN NOR GREATER-THANzbGREATER-THAN NOR LESS-THANzjPRECEDESiSUCCEEDSiP",
     "RECEDES OR EQUAL TOuSUCCEEDS OR EQUAL TOuPRECEDES OR EQUIVALENT TOzSUCCEEDS OR EQUIVALENT TO",
     "zDOES NOT PRECEDEhSUCCEEDqSUBSET OFhPERSET OFlNOT A SUBSET OFhPERSET OFrSUBSET OF OR EQUAL T",
     "OtPERSET OF OR EQUAL TOxNEITHER A SUBSET OF NOR EQUAL TOuPERSET OF NOR EQUAL TOzjSUBSET OF W",
     "ITH NOT EQUAL TOzPERSET OF WITH NOT EQUAL TOzeMULTISETa MULTIPLICATIONoUNIONoSQUARE IMAGE OF",
     "iORIGINAL OFlIMAGE OF OR EQUAL TOuORIGINAL OF OR EQUAL TOxCAPcUPkCIRCLED PLUSeMINUSfTIMESfDI",
     "VISION SLASHnOT OPERATORmRING OPERATORnASTERISK OPERATORrEQUALSgDASHmSQUARED PLUSeMINUSfTIME",
     "SfDOT OPERATORuRIGHT TACKkLEFT TACKjDOWN TACKjUP TACKhASSERTIONjMODELSgTRUEeFORCESgTRIPLE VE",
     "RTICAL BAR RIGHT TURNSTILEzkDOUBLE VERTICAL BAR DOUBLE RIGHT TURNSTILEzpES NOT PROVEoNOT TRU",
     "EiDOES NOT FORCEoNEGATED DOUBLE VERTICAL BAR DOUBLE RIGHT TURNSTILEzzPRECEDES UNDER RELATION",
     "xSUCCEEDS UNDER RELATIONxNORMAL SUBGROUP OFsCONTAINS AS NORMAL SUBGROUPzcNORMAL SUBGROUP OF ",
     "OR EQUAL TOzfCONTAINS AS NORMAL SUBGROUP OR EQUAL TOzoORIGINAL OFlIMAGE OFiMULTIMAPiHERMITIA",
     "N CONJUGATE MATRIXzbINTERCALATElXORdNANDdORdRIGHT ANGLE WITH ARCoTRIANGLEoN-ARY LOGICAL ANDd",
     "ORkINTERSECTIONmUNIONlDIAMOND OPERATORpOT OPERATORmSTAR OPERATORnDIVISION TIMESoBOWTIEgLEFT ",
     "NORMAL FACTOR SEMIDIRECT PRODUCTzmRIGHT NORMAL FACTOR SEMIDIRECT PRODUCTznLEFT SEMIDIRECT PR",
     "ODUCTxRIGHT SEMIDIRECT PRODUCTxEVERSED TILDE EQUALSvCURLY LOGICAL ORcANDrDOUBLE SUBSETePERSE",
     "TiINTERSECTIONmUNIONmPITCHFORKjEQUAL AND PARALLEL TOvLESS-THAN WITH DOTsGREATER-THAN WITH DO",
     "TvVERY MUCH LESS-THANjGREATER-THANwLESS-THAN EQUAL TO OR GREATER-THANzjGREATER-THAN EQUAL TO",
     " OR LESS-THANzjEQUAL TO OR LESS-THANjGREATER-THANmPRECEDESiSUCCEEDSuDOES NOT PRECEDE OR EQUA",
     "LqSUCCEED OR EQUALzNOT SQUARE IMAGE OF OR EQUAL TOuORIGINAL OF OR EQUAL TOzjSQUARE IMAGE OF ",
     "OR NOT EQUAL TOyORIGINAL OF OR NOT EQUAL TOzjLESS-THAN BUT NOT EQUIVALENT TOzgGREATER-THAN B",
     "UT NOT EQUIVALENT TOzjPRECEDES BUT NOT EQUIVALENT TOzfSUCCEEDS BUT NOT EQUIVALENT TOzfNOT NO",
     "RMAL SUBGROUP OFwDOES NOT CONTAIN AS NORMAL SUBGROUPzkNOT NORMAL SUBGROUP OF OR EQUAL TOzjDO",
     "ES NOT CONTAIN AS NORMAL SUBGROUP OR EQUALztVERTICAL ELLIPSISrMIDLINE HORIZONTAL ELLIPSISzcU",
     "P RIGHT DIAGONAL ELLIPSISzbDOWN RIGHT DIAGONAL ELLIPSISzdELEMENT OF WITH LONG HORIZONTAL STR",
     "OKEwVERTICAL BAR AT END OF HORIZONTAL STROKEzzgSMALL ELEMENT OF WITH VERTICAL BAR AT END OF ",
     "HORIZONTAL STROKEzzmELEMENT OF WITH DOT ABOVEjOVERBARxSMALL ELEMENT OF WITH OVERBARzeELEMENT",
     " OF WITH UNDERBARiTWO HORIZONTAL STROKESznCONTAINS WITH LONG HORIZONTAL STROKEwVERTICAL BAR ",
     "AT END OF HORIZONTAL STROKEzzeSMALL CONTAINS WITH VERTICAL BAR AT END OF HORIZONTAL STROKEzz",
     "kCONTAINS WITH OVERBARvSMALL CONTAINS WITH OVERBARzcZ NOTATION BAG MEMBERSHIPzDIAMETER SIGNn",
     "ELECTRIC ARROWoHOUSEfUP ARROWHEADmDOWN ARROWHEADoPROJECTIVEjERSPECTIVElWAVY LINEjLEFT CEILIN",
     "GmRIGHT CEILINGnLEFT FLOORkRIGHT FLOORlBOTTOM RIGHT CROPkLEFT CROPqTOP RIGHT CROPkLEFT CROPn",
     "REVERSED NOT SIGNrSQUARE LOZENGEoARCdSEGMENTfCTORgTELEPHONE RECORDERsPOSITION INDICATORsVIEW",
     "DATA SQUAREpPLACE OF INTEREST SIGNwTURNED NOT SIGNpWATCHfHOURGLASSjTOP LEFT CORNERlRIGHT COR",
     "NERqBOTTOM LEFT CORNERlRIGHT CORNERtTOP HALF INTEGRALrBOTTOM HALF INTEGRALuFROWNfSMILEfUP AR",
     "ROWHEAD BETWEEN TWO HORIZONTAL BARSzpOPTION KEYkERASE TO THE RIGHTsX IN A RECTANGLE BOXuKEYB",
     "OARDiLEFT-POINTING ANGLE BRACKETzcRIGHT-POINTING ANGLE BRACKETzdERASE TO THE LEFTrBENZENE RI",
     "NGmCYLINDRICITYmALL AROUND-PROFILEsSYMMETRYiTOTAL RUNOUTmDIMENSION ORIGINqCONICAL TAPERnSLOP",
     "EfCOUNTERBOREeSINKlAPL FUNCTIONAL SYMBOL I-BEAMgSQUISH QUADlQUAD EQUALfDIVIDEeAMONDhJOTdCIRC",
     "LElCIRCLE STILEfJOTkSLASH BARjBACKSLASH BARnQUAD SLASHfBACKSLASHjLESS-THANjGREATER-THANrLEFT",
     "WARDS VANEoRIGHTWARDS VANEpQUAD LEFTWARDS ARROWpRIGHTWARDS ARROWvCIRCLE BACKSLASHqDOWN TACK ",
     "UNDERBARrELTA STILElQUAD DOWN CARETjELTAkDOWN TACK JOTnUPWARDS VANEmQUAD UPWARDS ARROWsUP TA",
     "CK OVERBARpDEL STILEjQUAD UP CARETiDELiUP TACK JOTlDOWNWARDS VANEoQUAD DOWNWARDS ARROWsOTE U",
     "NDERBARoDELTA UNDERBARnIAMOND UNDERBARqJOT UNDERBARmCIRCLE UNDERBARpUP SHOE JOTlQUOTE QUADkC",
     "IRCLE STARlQUAD COLONkUP TACK DIAERESISrDEL DIAERESISnSTAR DIAERESISoJOT DIAERESISnCIRCLE DI",
     "AERESISqDOWN SHOE STILEpLEFT SHOE STILEpTILDE DIAERESISpGREATER-THAN DIAERESISwCOMMA BARjDEL",
     " TILDEjZILDEfSTILE TILDEkEMICOLON UNDERBARsQUAD NOT EQUALjQUESTIONnDOWN CARET TILDEqUP CARET",
     " TILDEoIOTAeRHOdOMEGAfALPHA UNDERBARoEPSILON UNDERBARqIOTA UNDERBARnOMEGA UNDERBARoALPHAzcNO",
     "T CHECK MARKoRIGHT ANGLE WITH DOWNWARDS ZIGZAG ARROWzoSHOULDERED OPEN BOXtBELL SYMBOLlVERTIC",
     "AL LINE WITH MIDDLE DOTzeINSERTION SYMBOLqCONTINUOUS UNDERLINE SYMBOLzcDISCONTINUOUS UNDERLI",
     "NE SYMBOLzfEMPHASIS SYMBOLpCOMPOSITION SYMBOLsWHITE SQUARE WITH CENTRE VERTICAL LINEznENTER ",
     "SYMBOLmALTERNATIVE KEY SYMBOLwHELM SYMBOLlCIRCLED HORIZONTAL BAR WITH NOTCHzTRIANGLE DOWNvBR",
     "OKEN CIRCLE WITH NORTHWEST ARROWzjUNDO SYMBOLlMONOSTABLE SYMBOLrHYSTERESIS SYMBOLrOPEN-CIRCU",
     "IT-OUTPUT H-TYPE SYMBOLnL-TYPE SYMBOLziPASSIVE-PULL-DOWN-OUTPUT SYMBOLsUP-OUTPUT SYMBOLzeDIR",
     "ECT CURRENT SYMBOL FORM TWOzfSOFTWARE-FUNCTION SYMBOLyAPL FUNCTIONAL SYMBOL QUADzbDECIMAL SE",
     "PARATOR KEY SYMBOLzdPREVIOUS PAGEnNEXT PAGEjPRINT SCREEN SYMBOLtCLEAR SCREEN SYMBOLtLEFT PAR",
     "ENTHESIS UPPER HOOKkEXTENSIONjLOWER HOOKzcRIGHT PARENTHESIS UPPER HOOKkEXTENSIONjLOWER HOOKz",
     "dLEFT SQUARE BRACKET UPPER CORNERmEXTENSIONjLOWER CORNERzhRIGHT SQUARE BRACKET UPPER CORNERm",
     "EXTENSIONjLOWER CORNERziLEFT CURLY BRACKET UPPER HOOKkMIDDLE PIECEmLOWER HOOKzeCURLY BRACKET",
     " EXTENSIONxRIGHT CURLY BRACKET UPPER HOOKkMIDDLE PIECEmLOWER HOOKzfINTEGRAL EXTENSIONsHORIZO",
     "NTAL LINE EXTENSIONzUPPER LEFT OR LOWER RIGHT CURLY BRACKET SECTIONzqRIGHT OR LOWER LEFT CUR",
     "LY BRACKET SECTIONzwSUMMATION TOPdBOTTOMqTOP SQUARE BRACKETsBOTTOM SQUARE BRACKETa OVER TOP ",
     "SQUARE BRACKETzuRADICAL SYMBOL BOTTOMvLEFT VERTICAL BOX LINEwRIGHT VERTICAL BOX LINExHORIZON",
     "TAL SCAN LINE-1b3b7b9wDENTISTRY SYMBOL LIGHT VERTICAL AND TOP RIGHTjBOTTOM RIGHTqWITH CIRCLE",
     "uDOWN AND HORIZONTAL WITH CIRCLEzgUP AND HORIZONTAL WITH CIRCLEzeVERTICAL WITH TRIANGLEwDOWN",
     " AND HORIZONTAL WITH TRIANGLEziUP AND HORIZONTAL WITH TRIANGLEzgVERTICAL AND WAVErDOWN AND H",
     "ORIZONTAL WITH WAVEzeUP AND HORIZONTAL WITH WAVEzcDOWN AND HORIZONTALtUP AND HORIZONTALrVERT",
     "ICAL AND TOP LEFTiBOTTOM LEFTzwSQUARE FOOTlRETURN SYMBOLnEJECT SYMBOLmVERTICAL LINE EXTENSIO",
     "NxMETRICAL BREVEfLONG OVER SHORTpSHORT OVER LONGpLONG OVER TWO SHORTSuTWO SHORTS OVER LONGjJ",
     "OINEDqRISEMEgETRASEMEjPENTASEMEsEARTH GROUNDmFUSEeTOP PARENTHESISpBOTTOM PARENTHESISsTOP CUR",
     "LY BRACKETrBOTTOM CURLY BRACKETuTOP TORTOISE SHELL BRACKETzbBOTTOM TORTOISE SHELL BRACKETzeW",
     "HITE TRAPEZIUMpBENZENE RING WITH CIRCLEySTRAIGHTNESSmFLATNESSiAC CURRENTkELECTRICAL INTERSEC",
     "TIONxDECIMAL EXPONENT SYMBOLxBLACK RIGHT-POINTING DOUBLE TRIANGLEzfLEFT-POINTING DOUBLE TRIA",
     "NGLEzeUP-POINTING DOUBLE TRIANGLEzcDOWN-POINTING DOUBLE TRIANGLEzeRIGHT-POINTING DOUBLE TRIA",
     "NGLE WITH VERTICAL BARzxLEFT-POINTING DOUBLE TRIANGLE WITH VERTICAL BARzwRIGHT-POINTING TRIA",
     "NGLE WITH DOUBLE VERTICAL BARzzeALARM CLOCKlSTOPWATCHjTIMER CLOCKlHOURGLASS WITH FLOWING SAN",
     "DzcBLACK MEDIUM LEFT-POINTING TRIANGLEwRIGHT-POINTING TRIANGLExUP-POINTING TRIANGLEuDOWN-POI",
     "NTING TRIANGLEzkDOUBLE VERTICAL BARtBLACK SQUARE FOR STOPpCIRCLE FOR RECORDxPOWER SYMBOLgON-",
     "OFF SYMBOLl SYMBOLjSLEEP SYMBOLsOBSERVER EYE SYMBOLtSYMBOL FOR NULLeSTART OF HEADINGhTEXTnEN",
     "D OF TEXTdRANSMISSIONrQUIRYhACKNOWLEDGElBELLdACKSPACEjHORIZONTAL TABULATIONvLINE FEEDjVERTIC",
     "AL TABULATIONtFORM FEEDjCARRIAGE RETURNpSHIFT OUTdINiDATA LINK ESCAPEpEVICE CONTROL ONEdTWOc",
     "HREEfFOURtNEGATIVE ACKNOWLEDGEuSYNCHRONOUS IDLEqEND OF TRANSMISSION BLOCKzCANCELgEND OF MEDI",
     "UMnSUBSTITUTEkESCAPEgFILE SEPARATORoGROUP SEPARATORpRECORD SEPARATORqUNIT SEPARATORoSPACEfDE",
     "LETErBLANK SYMBOLmOPEN BOXiSYMBOL FOR NEWLINEhDELETE FORM TWOpSUBSTITUTE FORM TWO"]⟩,
  ⟨0x2440, ["OCR HOOKeCHAIRfFORKeINVERTED FORKnBELT BUCKLEkOW TIEgRANCH BANK IDENTIFICATIONzbAMOUN",
     "T OF CHECKpDASHeCUSTOMER ACCOUNT NUMBERxDOUBLE BACKSLASH"]⟩,
  ⟨0x2460, ["CIRCLED DIGIT ONEdTWOcHREEfFOURdIVEeSIXcEVENfEIGHTfNINEkNUMBER TENdELEVENgTWELVEfHIRT",
     "EENiFOURTEENhIFTEENhSIXTEENgEVENTEENjEIGHTEENiNINETEENiTWENTYvPARENTHESIZED DIGIT ONEdTWOcHR",
     "EEfFOURdIVEeSIXcEVENfEIGHTfNINEkNUMBER TENdELEVENgTWELVEfHIRTEENiFOURTEENhIFTEENhSIXTEENgEVE",
     "NTEENjEIGHTEENiNINETEENiTWENTYzcDIGIT ONE FULL STOPnTWO FULL STOPmHREE FULL STOPpFOUR FULL S",
     "TOPnIVE FULL STOPoSIX FULL STOPmEVEN FULL STOPpEIGHT FULL STOPpNINE FULL STOPuNUMBER TEN FUL",
     "L STOPnELEVEN FULL STOPqTWELVE FULL STOPpHIRTEEN FULL STOPsFOURTEEN FULL STOPrIFTEEN FULL ST",
     "OPrSIXTEEN FULL STOPqEVENTEEN FULL STOPtEIGHTEEN FULL STOPsNINETEEN FULL STOPsTWENTY FULL ST",
     "OPxPARENTHESIZED LATIN SMALL LETTER AbBbCbDbEbFbGbHbIbJbKbLbMbNbObPbQbRbSbTbUbVbWbXbYbZzjCIR",
     "CLED LATIN CAPITAL LETTER AbBbCbDbEbFbGbHbIbJbKbLbMbNbObPbQbRbSbTbUbVbWbXbYbZqSMALL LETTER A",
     "bBbCbDbEbFbGbHbIbJbKbLbMbNbObPbQbRbSbTbUbVbWbXbYbZuDIGIT ZEROsNEGATIVE CIRCLED NUMBER ELEVEN",
     "gTWELVEfHIRTEENiFOURTEENhIFTEENhSIXTEENgEVENTEENjEIGHTEENiNINETEENiTWENTYzfDOUBLE CIRCLED DI",
     "GIT ONEdTWOcHREEfFOURdIVEeSIXcEVENfEIGHTfNINEkNUMBER TENzNEGATIVE CIRCLED DIGIT ZEROzcBOX DR",
     "AWINGS LIGHT HORIZONTALqHEAVY HORIZONTALqLIGHT VERTICALoHEAVY VERTICALoLIGHT TRIPLE DASH HOR",
     "IZONTALzdHEAVY TRIPLE DASH HORIZONTALzdLIGHT TRIPLE DASH VERTICALzbHEAVY TRIPLE DASH VERTICA",
     "LzbLIGHT QUADRUPLE DASH HORIZONTALzgHEAVY QUADRUPLE DASH HORIZONTALzgLIGHT QUADRUPLE DASH VE",
     "RTICALzeHEAVY QUADRUPLE DASH VERTICALzeLIGHT DOWN AND RIGHTuDOWN LIGHT AND RIGHT HEAVYvHEAVY",
     " AND RIGHT LIGHTzbHEAVY DOWN AND RIGHTuLIGHT DOWN AND LEFTtDOWN LIGHT AND LEFT HEAVYuHEAVY A",
     "ND LEFT LIGHTzHEAVY DOWN AND LEFTtLIGHT UP AND RIGHTsUP LIGHT AND RIGHT HEAVYvHEAVY AND RIGH",
     "T LIGHTyHEAVY UP AND RIGHTsLIGHT UP AND LEFTrUP LIGHT AND LEFT HEAVYuHEAVY AND LEFT LIGHTxHE",
     "AVY UP AND LEFTrLIGHT VERTICAL AND RIGHTyVERTICAL LIGHT AND RIGHT HEAVYzfUP HEAVY AND RIGHT ",
     "DOWN LIGHTzeDOWN HEAVY AND RIGHT UP LIGHTzeVERTICAL HEAVY AND RIGHT LIGHTzfDOWN LIGHT AND RI",
     "GHT UP HEAVYzeUP LIGHT AND RIGHT DOWN HEAVYzeHEAVY VERTICAL AND RIGHTyLIGHT VERTICAL AND LEF",
     "TxVERTICAL LIGHT AND LEFT HEAVYzeUP HEAVY AND LEFT DOWN LIGHTzdDOWN HEAVY AND LEFT UP LIGHTz",
     "dVERTICAL HEAVY AND LEFT LIGHTzeDOWN LIGHT AND LEFT UP HEAVYzdUP LIGHT AND LEFT DOWN HEAVYzd",
     "HEAVY VERTICAL AND LEFTxLIGHT DOWN AND HORIZONTALyEFT HEAVY AND RIGHT DOWN LIGHTzgRIGHT HEAV",
     "Y AND LEFT DOWN LIGHTzgDOWN LIGHT AND HORIZONTAL HEAVYzbHEAVY AND HORIZONTAL LIGHTzgRIGHT LI",
     "GHT AND LEFT DOWN HEAVYzgLEFT LIGHT AND RIGHT DOWN HEAVYzgHEAVY DOWN AND HORIZONTALzLIGHT UP",
     " AND HORIZONTALwEFT HEAVY AND RIGHT UP LIGHTzeRIGHT HEAVY AND LEFT UP LIGHTzeUP LIGHT AND HO",
     "RIZONTAL HEAVYzbHEAVY AND HORIZONTAL LIGHTzeRIGHT LIGHT AND LEFT UP HEAVYzeLEFT LIGHT AND RI",
     "GHT UP HEAVYzeHEAVY UP AND HORIZONTALxLIGHT VERTICAL AND HORIZONTALzdEFT HEAVY AND RIGHT VER",
     "TICAL LIGHTzkRIGHT HEAVY AND LEFT VERTICAL LIGHTzkVERTICAL LIGHT AND HORIZONTAL HEAVYzkUP HE",
     "AVY AND DOWN HORIZONTAL LIGHTzjDOWN HEAVY AND UP HORIZONTAL LIGHTzjVERTICAL HEAVY AND HORIZO",
     "NTAL LIGHTzkLEFT UP HEAVY AND RIGHT DOWN LIGHTzjRIGHT UP HEAVY AND LEFT DOWN LIGHTzjLEFT DOW",
     "N HEAVY AND RIGHT UP LIGHTzjRIGHT DOWN HEAVY AND LEFT UP LIGHTzjDOWN LIGHT AND UP HORIZONTAL",
     " HEAVYzjUP LIGHT AND DOWN HORIZONTAL HEAVYzjRIGHT LIGHT AND LEFT VERTICAL HEAVYzkLEFT LIGHT ",
     "AND RIGHT VERTICAL HEAVYzkHEAVY VERTICAL AND HORIZONTALzeLIGHT DOUBLE DASH HORIZONTALzdHEAVY",
     " DOUBLE DASH HORIZONTALzdLIGHT DOUBLE DASH VERTICALzbHEAVY DOUBLE DASH VERTICALzbDOUBLE HORI",
     "ZONTALkVERTICALnWN SINGLE AND RIGHT DOUBLExDOUBLE AND RIGHT SINGLEzbUBLE DOWN AND RIGHTtWN S",
     "INGLE AND LEFT DOUBLEwDOUBLE AND LEFT SINGLEzUBLE DOWN AND LEFTuUP SINGLE AND RIGHT DOUBLExD",
     "OUBLE AND RIGHT SINGLEzbDOUBLE UP AND RIGHTtUP SINGLE AND LEFT DOUBLEwDOUBLE AND LEFT SINGLE",
     "zDOUBLE UP AND LEFTsVERTICAL SINGLE AND RIGHT DOUBLExDOUBLE AND RIGHT SINGLEzhDOUBLE VERTICA",
     "L AND RIGHTzVERTICAL SINGLE AND LEFT DOUBLEwDOUBLE AND LEFT SINGLEzgDOUBLE VERTICAL AND LEFT",
     "wWN SINGLE AND HORIZONTAL DOUBLEzdDOUBLE AND HORIZONTAL SINGLEzgUBLE DOWN AND HORIZONTALzbUP",
     " SINGLE AND HORIZONTAL DOUBLEzdDOUBLE AND HORIZONTAL SINGLEzgDOUBLE UP AND HORIZONTALyVERTIC",
     "AL SINGLE AND HORIZONTAL DOUBLEzdDOUBLE AND HORIZONTAL SINGLEzmDOUBLE VERTICAL AND HORIZONTA",
     "LzfLIGHT ARC DOWN AND RIGHTfLEFTnUP AND LEFTeRIGHTqDIAGONAL UPPER RIGHT TO LOWER LEFTtLEFT T",
     "O LOWER RIGHTzCROSSoLEFTeUPcRIGHTfDOWNkHEAVY LEFTeUPcRIGHTfDOWNkLIGHT LEFT AND HEAVY RIGHTuU",
     "P AND HEAVY DOWNxHEAVY LEFT AND LIGHT RIGHTuUP AND LIGHT DOWNzlUPPER HALF BLOCKqLOWER ONE EI",
     "GHTH BLOCKmQUARTER BLOCKrTHREE EIGHTHS BLOCKtHALF BLOCKkFIVE EIGHTHS BLOCKsTHREE QUARTERS BL",
     "OCKuSEVEN EIGHTHS BLOCKzFULL BLOCKkLEFT SEVEN EIGHTHS BLOCKtTHREE QUARTERS BLOCKuFIVE EIGHTH",
     "S BLOCKsHALF BLOCKkTHREE EIGHTHS BLOCKtONE QUARTER BLOCKnEIGHTH BLOCKvRIGHT HALF BLOCKqLIGHT",
     " SHADElMEDIUM SHADEmDARK SHADEkUPPER ONE EIGHTH BLOCKwRIGHT ONE EIGHTH BLOCKwQUADRANT LOWER ",
     "LEFTeRIGHTlUPPER LEFTa AND LOWER LEFT AND LOWER RIGHTuRIGHTlUPPER RIGHT AND LOWER LEFTeRIGHT",
     "zlRIGHTa AND LOWER LEFTa AND LOWER RIGHTzzbBLACK SQUAREmWHITE SQUAREa WITH ROUNDED CORNERSuC",
     "ONTAINING BLACK SMALL SQUAREzrSQUARE WITH HORIZONTAL FILLpVERTICAL FILLnORTHOGONAL CROSSHATC",
     "H FILLzbUPPER LEFT TO LOWER RIGHT FILLyRIGHT TO LOWER LEFT FILLzfDIAGONAL CROSSHATCH FILLzlB",
     "LACK SMALL SQUAREsWHITE SMALL SQUAREsBLACK RECTANGLEpWHITE RECTANGLEpBLACK VERTICAL RECTANGL",
     "EyWHITE VERTICAL RECTANGLEyBLACK PARALLELOGRAMtWHITE PARALLELOGRAMtBLACK UP-POINTING TRIANGL",
     "EzbWHITE UP-POINTING TRIANGLEzbBLACK UP-POINTING SMALL TRIANGLEzhWHITE UP-POINTING SMALL TRI",
     "ANGLEzhBLACK RIGHT-POINTING TRIANGLEzeWHITE RIGHT-POINTING TRIANGLEzeBLACK RIGHT-POINTING SM",
     "ALL TRIANGLEzkWHITE RIGHT-POINTING SMALL TRIANGLEzkBLACK RIGHT-POINTING POINTERzdWHITE RIGHT",
     "-POINTING POINTERzdBLACK DOWN-POINTING TRIANGLEzdWHITE DOWN-POINTING TRIANGLEzdBLACK DOWN-PO",
     "INTING SMALL TRIANGLEzjWHITE DOWN-POINTING SMALL TRIANGLEzjBLACK LEFT-POINTING TRIANGLEzdWHI",
     "TE LEFT-POINTING TRIANGLEzdBLACK LEFT-POINTING SMALL TRIANGLEzjWHITE LEFT-POINTING SMALL TRI",
     "ANGLEzjBLACK LEFT-POINTING POINTERzcWHITE LEFT-POINTING POINTERzcBLACK DIAMONDnWHITE DIAMOND",
     "a CONTAINING BLACK SMALL DIAMONDztFISHEYEhLOZENGEhWHITE CIRCLEmDOTTED CIRCLEnCIRCLE WITH VER",
     "TICAL FILLzBULLSEYEhLACK CIRCLEmCIRCLE WITH LEFT HALF BLACKpRIGHT HALF BLACKqLOWER HALF BLAC",
     "KqUPPER HALF BLACKkRIGHT QUADRANT BLACKzbALL BUT UPPER LEFT QUADRANT BLACKzuLEFT HALF BLACK ",
     "CIRCLEwRIGHT HALF BLACK CIRCLExINVERSE BULLETgWHITE CIRCLEuUPPER HALF INVERSE WHITE CIRCLEzg",
     "LOWER HALF INVERSE WHITE CIRCLEzgUPPER LEFT QUADRANT CIRCULAR ARCzbRIGHT QUADRANT CIRCULAR A",
     "RCziLOWER RIGHT QUADRANT CIRCULAR ARCzcLEFT QUADRANT CIRCULAR ARCzhUPPER HALF CIRCLErLOWER H",
     "ALF CIRCLErBLACK LOWER RIGHT TRIANGLEoLEFT TRIANGLEtUPPER LEFT TRIANGLEnRIGHT TRIANGLEzbWHIT",
     "E BULLETmSQUARE WITH LEFT HALF BLACKpRIGHT HALF BLACKqUPPER LEFT DIAGONAL HALF BLACKzfLOWER ",
     "RIGHT DIAGONAL HALF BLACKzsWHITE SQUARE WITH VERTICAL BISECTING LINEzkUP-POINTING TRIANGLE W",
     "ITH DOTzkUP-POINTING TRIANGLE WITH LEFT HALF BLACKpRIGHT HALF BLACKzrLARGE CIRCLEmWHITE SQUA",
     "RE WITH UPPER LEFT QUADRANTtLOWER LEFT QUADRANTnRIGHT QUADRANTuUPPER RIGHT QUADRANTzhCIRCLE ",
     "WITH UPPER LEFT QUADRANTtLOWER LEFT QUADRANTnRIGHT QUADRANTuUPPER RIGHT QUADRANTznUPPER LEFT",
     " TRIANGLEnRIGHT TRIANGLEuLOWER LEFT TRIANGLEtWHITE MEDIUM SQUAREtBLACK MEDIUM SQUAREtWHITE M",
     "EDIUM SMALL SQUAREzBLACK MEDIUM SMALL SQUAREzLOWER RIGHT TRIANGLEuBLACK SUN WITH RAYStCLOUDf",
     "UMBRELLAiSNOWMANhCOMETfBLACK STARkWHITE STARkLIGHTNINGjTHUNDERSTORMmSUNdASCENDING NODEoDESCE",
     "NDING NODEpCONJUNCTIONlOPPOSITIONkBLACK TELEPHONEpWHITE TELEPHONEpBALLOT BOXa WITH CHECKfXrS",
     "ALTIREhUMBRELLA WITH RAIN DROPSyHOT BEVERAGEmWHITE SHOGI PIECErBLACK SHOGI PIECErSHAMROCKiRE",
     "VERSED ROTATED FLORAL HEART BULLETzlBLACK LEFT POINTING INDEXtRIGHT POINTING INDEXzbWHITE LE",
     "FT POINTING INDEXtUP POINTING INDEXrRIGHT POINTING INDEXuDOWN POINTING INDEXzSKULL AND CROSS",
     "BONESuCAUTION SIGNmRADIOACTIVE SIGNqBIOHAZARD SIGNoCADUCEUSiANKHeORTHODOX CROSSoCHI RHOgROSS",
     " OF LORRAINEiJERUSALEMsSTAR AND CRESCENTrFARSI SYMBOLmADI SHAKTIkHAMMER AND SICKLErPEACE SYM",
     "BOLmYIN YANGiTRIGRAM FOR HEAVENgLAKEeFIREeTHUNDERhWINDdATERfMOUNTAINiEARTHrWHEEL OF DHARMAnI",
     "TE FROWNING FACEnSMILING FACEsBLACK SMILING FACEsWHITE SUN WITH RAYStFIRST QUARTER MOONsLAST",
     " QUARTER MOONrMERCURYhFEMALE SIGNlEARTHfMALE SIGNjJUPITERhSATURNgURANUSgNEPTUNEhPLUTOfARIESf",
     "TAURUSgGEMINIgCANCERgLEOdVIRGOfLIBRAfSCORPIUShAGITTARIUSlCAPRICORNjAQUARIUSiPISCESgWHITE CHE",
     "SS KINGeQUEENfROOKeBISHOPgKNIGHTgPAWNqBLACK CHESS KINGeQUEENfROOKeBISHOPgKNIGHTgPAWNkSPADE S",
     "UITqWHITE HEART SUITkDIAMOND SUITsBLACK CLUB SUITpWHITE SPADE SUITqBLACK HEART SUITkDIAMOND ",
     "SUITsWHITE CLUB SUITpHOT SPRINGSlQUARTER NOTEmEIGHTH NOTElBEAMED EIGHTH NOTESmSIXTEENTH NOTE",
     "SwMUSIC FLAT SIGNjNATURAL SIGNmSHARP SIGNqWEST SYRIAC CROSSrEAST SYRIAC CROSSrUNIVERSAL RECY",
     "CLING SYMBOLzbRECYCLING SYMBOL FOR TYPE-1 PLASTICSk2 PLASTICSk3 PLASTICSk4 PLASTICSk5 PLASTI",
     "CSk6 PLASTICSk7 PLASTICSpGENERIC MATERIALSznBLACK UNIVERSAL RECYCLING SYMBOLzhRECYCLED PAPER",
     " SYMBOLvPARTIALLY-RECYCLED PAPER SYMBOLzfERMANENT PAPER SIGNuWHEELCHAIR SYMBOLrDIE FACE-1b2b",
     "3b4b5b6kWHITE CIRCLE WITH DOT RIGHTjTWO DOTSzbBLACK CIRCLE WITH WHITE DOT RIGHTpTWO WHITE DO",
     "TSzhMONOGRAM FOR YANGdINqDIGRAM FOR GREATER YANGmLESSER YINcANGlGREATER YINwWHITE FLAGkBLACK",
     " FLAGkHAMMER AND PICKpANCHORgCROSSED SWORDSoSTAFF OF AESCULAPIUStCALESgALEMBIChFLOWERgGEAReS",
     "TAFF OF HERMESpATOM SYMBOLlFLEUR-DE-LISmOUTLINED WHITE STARtTHREE LINES CONVERGING RIGHTfLEF",
     "TzcWARNING SIGNmHIGH VOLTAGE SIGNrDOUBLED FEMALE SIGNlMALE SIGNrINTERLOCKED FEMALE AND MALE ",
     "SIGNzhMALE AND FEMALE SIGNpWITH STROKE SIGNeAND MALE AND FEMALE SIGNzqVERTICAL MALE WITH STR",
     "OKE SIGNzfHORIZONTAL MALE WITH STROKE SIGNzhMEDIUM WHITE CIRCLEmBLACK CIRCLEmSMALL WHITE CIR",
     "CLEyARRIAGE SYMBOLpDIVORCE SYMBOLoUNMARRIED PARTNERSHIP SYMBOLzdCOFFINgFUNERAL URNlNEUTERgCE",
     "RESfPALLASgJUNOeVESTAfCHIRONgBLACK MOON LILITHrSEXTILEfMISEXTILElQUINCUNXiSESQUIQUADRATEnOCC",
     "ER BALLlBASEBALLiSQUARED KEYlWHITE DRAUGHTS MANdKINGtBLACK DRAUGHTS MANdKINGtSNOWMAN WITHOUT",
     " SNOWtUN BEHIND CLOUDqRAINeBLACK SNOWMANnTHUNDER CLOUD AND RAINvURNED WHITE SHOGI PIECErBLAC",
     "K SHOGI PIECEyWHITE DIAMOND IN SQUARExCROSSING LANESoDISABLED CARmOPHIUCHUSjPICKeCAR SLIDING",
     "lHELMET WITH WHITE CROSSxCIRCLED CROSSING LANESvHAINSgNO ENTRYiALTERNATE ONE-WAY LEFT WAY TR",
     "AFFICzjBLACK TWO-WAY LEFT WAY TRAFFICzfWHITE TWO-WAY LEFT WAY TRAFFICzfBLACK LEFT LANE MERGE",
     "vWHITE LEFT LANE MERGEvDRIVE SLOW SIGNpHEAVY WHITE DOWN-POINTING TRIANGLEzjLEFT CLOSED ENTRY",
     "rSQUARED SALTIREpFALLING DIAGONAL IN WHITE CIRCLE IN BLACK SQUAREzxBLACK TRUCKlRESTRICTED LE",
     "FT ENTRY-1b2xASTRONOMICAL SYMBOL FOR URANUSzfHEAVY CIRCLE WITH STROKE AND TWO DOTS ABOVEzsPE",
     "NTAGRAMjRIGHT-HANDED INTERLACED PENTAGRAMziLEFT-HANDED INTERLACED PENTAGRAMzhINVERTED PENTAG",
     "RAMsBLACK CROSS ON SHIELDvSHINTO SHRINEnCHURCHfASTLEgHISTORIC SITEnGEAR WITHOUT HUBh HANDLES",
     "rMAP SYMBOL FOR LIGHTHOUSEyOUNTAINiUMBRELLA ON GROUNDsFOUNTAINhLAG IN HOLElERRYfSAILBOAThQUA",
     "RE FOUR CORNERSsKIERfICE SKATEjPERSON WITH BALLqTENTeJAPANESE BANK SYMBOLuHEADSTONE GRAVEYAR",
     "D SYMBOLzbFUEL PUMPjCUP ON BLACK SQUAREtWHITE FLAG WITH HORIZONTAL MIDDLE BLACK STRIPEzvBLAC",
     "K SAFETY SCISSORSvUPPER BLADE SCISSORSuBLACK SCISSORSoLOWER BLADE SCISSORSuWHITE SCISSORSiHE",
     "AVY CHECK MARKwTELEPHONE LOCATION SIGNwAPE DRIVEkAIRPLANEiENVELOPEiRAISED FISTeHANDlVICTORY ",
     "HANDmWRITING HANDmLOWER RIGHT PENCILsPENCILgUPPER RIGHT PENCILsWHITE NIBjBLACK NIBjCHECK MAR",
     "KkHEAVY CHECK MARKqMULTIPLICATION XqHEAVY MULTIPLICATION XwBALLOT XiHEAVY BALLOT XoOUTLINED ",
     "GREEK CROSSuHEAVY GREEK CROSSrOPEN CENTRE CROSSrHEAVY OPEN CENTRE CROSSxLATIN CROSSlSHADOWED",
     " WHITE LATIN CROSSzbOUTLINED LATIN CROSSuMALTESE CROSSnSTAR OF DAVIDnFOUR TEARDROP-SPOKED AS",
     "TERISKyBALLOON-SPOKED ASTERISKzdHEAVY FOUR BALLOON-SPOKED ASTERISKzjFOUR CLUB-SPOKED ASTERIS",
     "KzBLACK FOUR POINTED STARxWHITE FOUR POINTED STARxSPARKLEShTRESS OUTLINED WHITE STARzbCIRCLE",
     "D WHITE STARsOPEN CENTRE BLACK STARwBLACK CENTRE WHITE STARxOUTLINED BLACK STARtHEAVY OUTLIN",
     "ED BLACK STARzPINWHEEL STARnSHADOWED WHITE STARtHEAVY ASTERISKoOPEN CENTRE ASTERISKuEIGHT SP",
     "OKED ASTERISKpPOINTED BLACK STARkPINWHEEL STARzcSIX POINTED BLACK STARwEIGHT POINTED RECTILI",
     "NEAR BLACK STARzlHEAVY EIGHT POINTED RECTILINEAR BLACK STARzrTWELVE POINTED BLACK STARzSIXTE",
     "EN POINTED ASTERISKyTEARDROP-SPOKED ASTERISKyOPEN CENTRE TEARDROP-SPOKED ASTERISKzlHEAVY TEA",
     "RDROP-SPOKED ASTERISKzfSIX PETALLED BLACK AND WHITE FLORETTEzmBLACK FLORETTEoWHITE FLORETTEo",
     "EIGHT PETALLED OUTLINED BLACK FLORETTEznCIRCLED OPEN CENTRE EIGHT POINTED STARznHEAVY TEARDR",
     "OP-SPOKED PINWHEEL ASTERISKzoSNOWFLAKEjTIGHT TRIFOLIATE SNOWFLAKEzbHEAVY CHEVRON SNOWFLAKExS",
     "PARKLEhHEAVY SPARKLEnBALLOON-SPOKED ASTERISKxEIGHT TEARDROP-SPOKED PROPELLER ASTERISKzpHEAVY",
     " EIGHT TEARDROP-SPOKED PROPELLER ASTERISKzvCROSS MARKkSHADOWED WHITE CIRCLEvNEGATIVE SQUARED",
     " CROSS MARKzcLOWER RIGHT DROP-SHADOWED WHITE SQUAREznUPPER RIGHT DROP-SHADOWED WHITE SQUAREz",
     "nLOWER RIGHT SHADOWED WHITE SQUAREziUPPER RIGHT SHADOWED WHITE SQUAREziBLACK QUESTION MARK O",
     "RNAMENTzdWHITE QUESTION MARK ORNAMENTwEXCLAMATION MARK ORNAMENTzgBLACK DIAMOND MINUS WHITE X",
     "zcHEAVY EXCLAMATION MARK SYMBOLzeLIGHT VERTICAL BARsMEDIUM VERTICAL BARtHEAVY VERTICAL BARmS",
     "INGLE TURNED COMMA QUOTATION MARK ORNAMENTzlCOMMA QUOTATION MARK ORNAMENTzlDOUBLE TURNED COM",
     "MA QUOTATION MARK ORNAMENTzlCOMMA QUOTATION MARK ORNAMENTzlLOW SINGLE COMMA QUOTATION MARK O",
     "RNAMENTzlDOUBLE COMMA QUOTATION MARK ORNAMENTzvCURVED STEM PARAGRAPH SIGN ORNAMENTzkHEAVY EX",
     "CLAMATION MARK ORNAMENTzHEART EXCLAMATION MARK ORNAMENTzgBLACK HEARTrROTATED HEAVY BLACK HEA",
     "RT BULLETzhFLORAL HEARTmROTATED FLORAL HEART BULLETzcMEDIUM LEFT PARENTHESIS ORNAMENTzRIGHT ",
     "PARENTHESIS ORNAMENTzbFLATTENED LEFT PARENTHESIS ORNAMENTzRIGHT PARENTHESIS ORNAMENTzlLEFT-P",
     "OINTING ANGLE BRACKET ORNAMENTzlRIGHT-POINTING ANGLE BRACKET ORNAMENTztHEAVY LEFT-POINTING A",
     "NGLE QUOTATION MARK ORNAMENTzsRIGHT-POINTING ANGLE QUOTATION MARK ORNAMENTztLEFT-POINTING AN",
     "GLE BRACKET ORNAMENTzlRIGHT-POINTING ANGLE BRACKET ORNAMENTzsLIGHT LEFT TORTOISE SHELL BRACK",
     "ET ORNAMENTzlRIGHT TORTOISE SHELL BRACKET ORNAMENTzsMEDIUM LEFT CURLY BRACKET ORNAMENTzcRIGH",
     "T CURLY BRACKET ORNAMENTzkDINGBAT NEGATIVE CIRCLED DIGIT ONEdTWOcHREEfFOURdIVEeSIXcEVENfEIGH",
     "TfNINEkNUMBER TENzcCIRCLED SANS-SERIF DIGIT ONEdTWOcHREEfFOURdIVEeSIXcEVENfEIGHTfNINEkNUMBER",
     " TENzeNEGATIVE CIRCLED SANS-SERIF DIGIT ONEdTWOcHREEfFOURdIVEeSIXcEVENfEIGHTfNINEkNUMBER TEN",
     "zvHEAVY WIDE-HEADED RIGHTWARDS ARROWzdPLUS SIGNjMINUS SIGNkDIVISION SIGNnSOUTH EAST ARROWqRI",
     "GHTWARDS ARROWqNORTH EAST ARROWwDRAFTING POINT RIGHTWARDS ARROWzgHEAVY ROUND-TIPPED RIGHTWAR",
     "DS ARROWzkTRIANGLE-HEADED RIGHTWARDS ARROWzhHEAVY TRIANGLE-HEADED RIGHTWARDS ARROWznDASHED T",
     "RIANGLE-HEADED RIGHTWARDS ARROWzoHEAVY DASHED TRIANGLE-HEADED RIGHTWARDS ARROWzuBLACK RIGHTW",
     "ARDS ARROWwTHREE-D TOP-LIGHTED RIGHTWARDS ARROWHEADzhBOTTOM-LIGHTED RIGHTWARDS ARROWHEADzsBL",
     "ACK RIGHTWARDS ARROWHEADzbHEAVY BLACK CURVED DOWNWARDS AND RIGHTWARDS ARROWzfUPWARDS AND RIG",
     "HTWARDS ARROWzwSQUAT BLACK RIGHTWARDS ARROWzdHEAVY CONCAVE-POINTED BLACK RIGHTWARDS ARROWztR",
     "IGHT-SHADED WHITE RIGHTWARDS ARROWzkLEFT-SHADED WHITE RIGHTWARDS ARROWzjBACK-TILTED SHADOWED",
     " WHITE RIGHTWARDS ARROWzsFRONT-TILTED SHADOWED WHITE RIGHTWARDS ARROWztHEAVY LOWER RIGHT-SHA",
     "DOWED WHITE RIGHTWARDS ARROWzsUPPER RIGHT-SHADOWED WHITE RIGHTWARDS ARROWzyNOTCHED LOWER RIG",
     "HT-SHADOWED WHITE RIGHTWARDS ARROWzzbCURLY LOOPkNOTCHED UPPER RIGHT-SHADOWED WHITE RIGHTWARD",
     "S ARROWzzbCIRCLED HEAVY WHITE RIGHTWARDS ARROWzlWHITE-FEATHERED RIGHTWARDS ARROWzhBLACK-FEAT",
     "HERED SOUTH EAST ARROWqRIGHTWARDS ARROWqNORTH EAST ARROWzhHEAVY BLACK-FEATHERED SOUTH EAST A",
     "RROWqRIGHTWARDS ARROWqNORTH EAST ARROWznTEARDROP-BARBED RIGHTWARDS ARROWzhHEAVY TEARDROP-SHA",
     "NKED RIGHTWARDS ARROWzoWEDGE-TAILED RIGHTWARDS ARROWzeHEAVY WEDGE-TAILED RIGHTWARDS ARROWzkO",
     "PEN-OUTLINED RIGHTWARDS ARROWzfDOUBLE CURLY LOOPrTHREE DIMENSIONAL ANGLExWHITE TRIANGLE CONT",
     "AINING SMALL WHITE TRIANGLEzvPERPENDICULARnOPEN SUBSETePERSETnLEFT S-SHAPED BAG DELIMITERzcR",
     "IGHT S-SHAPED BAG DELIMITERzdOR WITH DOT INSIDEsREVERSE SOLIDUS PRECEDING SUBSETzhSUPERSET P",
     "RECEDING SOLIDUSzbVERTICAL BAR WITH HORIZONTAL STROKEzkMATHEMATICAL RISING DIAGONALzdLONG DI",
     "VISIONnMATHEMATICAL FALLING DIAGONALzeSQUARED LOGICAL ANDdORsWHITE DIAMOND WITH CENTRED DOTz",
     "fAND WITH DOTmELEMENT OF OPENING UPWARDSzbLOWER RIGHT CORNER WITH DOTzcUPPER LEFT CORNER WIT",
     "H DOTzbLEFT OUTER JOINpRIGHT OUTER JOINqFULL OUTER JOINpLARGE UP TACKhDOWN TACKoEFT AND RIGH",
     "T DOUBLE TURNSTILEqTACKoMULTIMAPmONG RIGHT TACKkLEFT TACKoUP TACK WITH CIRCLE ABOVEzLOZENGE ",
     "DIVIDED BY HORIZONTAL RULEzjWHITE CONCAVE-SIDED DIAMONDa WITH LEFTWARDS TICKoRIGHTWARDS TICK",
     "zrSQUARE WITH LEFTWARDS TICKoRIGHTWARDS TICKziMATHEMATICAL LEFT WHITE SQUARE BRACKETzRIGHT W",
     "HITE SQUARE BRACKETzbLEFT ANGLE BRACKETsRIGHT ANGLE BRACKETtLEFT DOUBLE ANGLE BRACKETzRIGHT ",
     "DOUBLE ANGLE BRACKETzbLEFT WHITE TORTOISE SHELL BRACKETziRIGHT WHITE TORTOISE SHELL BRACKETz",
     "jLEFT FLATTENED PARENTHESISzbRIGHT FLATTENED PARENTHESISzpUPWARDS QUADRUPLE ARROWxDOWNWARDS ",
     "QUADRUPLE ARROWzANTICLOCKWISE GAPPED CIRCLE ARROWziCLOCKWISE GAPPED CIRCLE ARROWzeRIGHT ARRO",
     "W WITH CIRCLED PLUSzeLONG LEFTWARDS ARROWpRIGHTWARDS ARROWqLEFT RIGHT ARROWmWARDS DOUBLE ARR",
     "OWwRIGHTWARDS DOUBLE ARROWxLEFT RIGHT DOUBLE ARROWtWARDS ARROW FROM BARyRIGHTWARDS ARROW FRO",
     "M BARzLEFTWARDS DOUBLE ARROW FROM BARzgRIGHTWARDS DOUBLE ARROW FROM BARvSQUIGGLE ARROWzfBRAI",
     "LLE PATTERN BLANKfDOTS-1b2b12c3b13c23c123d4b14c24c124d34c134d234d1234e5b15c25c125d35c135d235",
     "d1235e45c145d245d1245e345d1345e2345e12345f6b16c26c126d36c136d236d1236e46c146d246d1246e346d13",
     "46e2346e12346f56c156d256d1256e356d1356e2356e12356f456d1456e2456e12456f3456e13456f23456f12345",
     "6g7b17c27c127d37c137d237d1237e47c147d247d1247e347d1347e2347e12347f57c157d257d1257e357d1357e2",
     "357e12357f457d1457e2457e12457f3457e13457f23457f123457g67c167d267d1267e367d1367e2367e12367f46",
     "7d1467e2467e12467f3467e13467f23467f123467g567d1567e2567e12567f3567e13567f23567f123567g4567e1",
     "4567f24567f124567g34567f134567g234567g1234567h8b18c28c128d38c138d238d1238e48c148d248d1248e34",
     "8d1348e2348e12348f58c158d258d1258e358d1358e2358e12358f458d1458e2458e12458f3458e13458f23458f1",
     "23458g68c168d268d1268e368d1368e2368e12368f468d1468e2468e12468f3468e13468f23468f123468g568d15",
     "68e2568e12568f3568e13568f23568f123568g4568e14568f24568f124568g34568f134568g234568g1234568h78",
     "c178d278d1278e378d1378e2378e12378f478d1478e2478e12478f3478e13478f23478f123478g578d1578e2578e",
     "12578f3578e13578f23578f123578g4578e14578f24578f124578g34578f134578g234578g1234578h678d1678e2",
     "678e12678f3678e13678f23678f123678g4678e14678f24678f124678g34678f134678g234678g1234678h5678e1",
     "5678f25678f125678g35678f135678g235678g1235678h45678f145678g245678g1245678h345678g1345678h234",
     "5678h12345678zeRIGHTWARDS TWO-HEADED ARROW WITH VERTICAL STROKEpDOUBLE VERTICAL STROKEzzfLEF",
     "TWARDS DOUBLE ARROW WITH VERTICAL STROKEzsRIGHTWARDS DOUBLE ARROW WITH VERTICAL STROKEztLEFT",
     " RIGHT DOUBLE ARROW WITH VERTICAL STROKEztRIGHTWARDS TWO-HEADED ARROW FROM BARzlLEFTWARDS DO",
     "UBLE ARROW FROM BARzgRIGHTWARDS DOUBLE ARROW FROM BARzhDOWNWARDS ARROW WITH HORIZONTAL STROK",
     "EznUPWARDS ARROW WITH HORIZONTAL STROKEzdTRIPLE ARROWuDOWNWARDS TRIPLE ARROWwLEFTWARDS DOUBL",
     "E DASH ARROWzcRIGHTWARDS DOUBLE DASH ARROWzdLEFTWARDS TRIPLE DASH ARROWzcRIGHTWARDS TRIPLE D",
     "ASH ARROWqWO-HEADED TRIPLE DASH ARROWzdARROW WITH DOTTED STEMziUPWARDS ARROW TO BARuDOWNWARD",
     "S ARROW TO BARwRIGHTWARDS ARROW WITH TAIL WITH VERTICAL STROKEpDOUBLE VERTICAL STROKEzsTWO-H",
     "EADED ARROW WITH TAILa WITH VERTICAL STROKEpDOUBLE VERTICAL STROKEzzpLEFTWARDS ARROW-TAILuRI",
     "GHTWARDS ARROW-TAILvLEFTWARDS DOUBLE ARROW-TAILzcRIGHTWARDS DOUBLE ARROW-TAILzdLEFTWARDS ARR",
     "OW TO BLACK DIAMONDzhRIGHTWARDS ARROW TO BLACK DIAMONDziLEFTWARDS ARROW FROM BAR TO BLACK DI",
     "AMONDzqRIGHTWARDS ARROW FROM BAR TO BLACK DIAMONDzrNORTH WEST AND SOUTH EAST ARROWzEAST AND ",
     "SOUTH WEST ARROWzWEST ARROW WITH HOOKuEAST ARROW WITH HOOKzbSOUTH EAST ARROW WITH HOOKuWEST ",
     "ARROW WITH HOOKzbNORTH WEST ARROW AND NORTH EAST ARROWzgEAST ARROW AND SOUTH EAST ARROWzmSOU",
     "TH EAST ARROW AND SOUTH WEST ARROWzgWEST ARROW AND NORTH WEST ARROWzmRISING DIAGONAL CROSSIN",
     "G FALLING DIAGONALzqFALLING DIAGONAL CROSSING RISING DIAGONALzqSOUTH EAST ARROW CROSSING NOR",
     "TH EAST ARROWzrNORTH EAST ARROW CROSSING SOUTH EAST ARROWzrFALLING DIAGONAL CROSSING NORTH E",
     "AST ARROWzrRISING DIAGONAL CROSSING SOUTH EAST ARROWzqNORTH EAST ARROW CROSSING NORTH WEST A",
     "RROWzlWEST ARROW CROSSING NORTH EAST ARROWzrWAVE ARROW POINTING DIRECTLY RIGHTzjARROW POINTI",
     "NG RIGHTWARDS THEN CURVING UPWARDShDOWNWARDSziDOWNWARDS THEN CURVING LEFTWARDSjRIGHTWARDSzxR",
     "IGHT-SIDE ARC CLOCKWISE ARROWzfLEFT-SIDE ARC ANTICLOCKWISE ARROWziTOP ARC ANTICLOCKWISE ARRO",
     "WzcBOTTOM ARC ANTICLOCKWISE ARROWzfTOP ARC CLOCKWISE ARROW WITH MINUSzbANTICLOCKWISE ARROW W",
     "ITH PLUSzmLOWER RIGHT SEMICIRCULAR CLOCKWISE ARROWzjLEFT SEMICIRCULAR ANTICLOCKWISE ARROWzsA",
     "NTICLOCKWISE CLOSED CIRCLE ARROWziCLOCKWISE CLOSED CIRCLE ARROWzeRIGHTWARDS ARROW ABOVE SHOR",
     "T LEFTWARDS ARROWztLEFTWARDS ARROW ABOVE SHORT RIGHTWARDS ARROWztSHORT RIGHTWARDS ARROW ABOV",
     "E LEFTWARDS ARROWztRIGHTWARDS ARROW WITH PLUS BELOWzhLEFTWARDS ARROW WITH PLUS BELOWzgRIGHTW",
     "ARDS ARROW THROUGH XzbLEFT RIGHT ARROW THROUGH SMALL CIRCLEzmUPWARDS TWO-HEADED ARROW FROM S",
     "MALL CIRCLEzrLEFT BARB UP RIGHT BARB DOWN HARPOONzbDOWN RIGHT BARB UP HARPOONzlUP BARB RIGHT",
     " DOWN BARB LEFT HARPOONzdLEFT DOWN BARB RIGHT HARPOONzlLEFT BARB UP RIGHT BARB UP HARPOONzjU",
     "P BARB RIGHT DOWN BARB RIGHT HARPOONzmLEFT BARB DOWN RIGHT BARB DOWN HARPOONznUP BARB LEFT D",
     "OWN BARB LEFT HARPOONzkLEFTWARDS HARPOON WITH BARB UP TO BARzmRIGHTWARDS HARPOON WITH BARB U",
     "P TO BARznUPWARDS HARPOON WITH BARB RIGHT TO BARznDOWNWARDS HARPOON WITH BARB RIGHT TO BARzp",
     "LEFTWARDS HARPOON WITH BARB DOWN TO BARzoRIGHTWARDS HARPOON WITH BARB DOWN TO BARzpUPWARDS H",
     "ARPOON WITH BARB LEFT TO BARzmDOWNWARDS HARPOON WITH BARB LEFT TO BARzoLEFTWARDS HARPOON WIT",
     "H BARB UP FROM BARzoRIGHTWARDS HARPOON WITH BARB UP FROM BARzpUPWARDS HARPOON WITH BARB RIGH",
     "T FROM BARzpDOWNWARDS HARPOON WITH BARB RIGHT FROM BARzrLEFTWARDS HARPOON WITH BARB DOWN FRO",
     "M BARzqRIGHTWARDS HARPOON WITH BARB DOWN FROM BARzrUPWARDS HARPOON WITH BARB LEFT FROM BARzo",
     "DOWNWARDS HARPOON WITH BARB LEFT FROM BARzqLEFTWARDS HARPOON WITH BARB UP ABOVE LEFTWARDS HA",
     "RPOON WITH BARB DOWNzztUPWARDS HARPOON WITH BARB LEFT BESIDE UPWARDS HARPOON WITH BARB RIGHT",
     "zztRIGHTWARDS HARPOON WITH BARB UP ABOVE RIGHTWARDS HARPOON WITH BARB DOWNzzvDOWNWARDS HARPO",
     "ON WITH BARB LEFT BESIDE DOWNWARDS HARPOON WITH BARB RIGHTzzxLEFTWARDS HARPOON WITH BARB UP ",
     "ABOVE RIGHTWARDS HARPOON WITH BARB UPzpDOWN ABOVE RIGHTWARDS HARPOON WITH BARB DOWNzzwRIGHTW",
     "ARDS HARPOON WITH BARB UP ABOVE LEFTWARDS HARPOON WITH BARB UPzoDOWN ABOVE LEFTWARDS HARPOON",
     " WITH BARB DOWNzzwLEFTWARDS HARPOON WITH BARB UP ABOVE LONG DASHsDOWN BELOW LONG DASHzxRIGHT",
     "WARDS HARPOON WITH BARB UP ABOVE LONG DASHsDOWN BELOW LONG DASHzyUPWARDS HARPOON WITH BARB L",
     "EFT BESIDE DOWNWARDS HARPOON WITH BARB RIGHTzzvDOWNWARDS HARPOON WITH BARB LEFT BESIDE UPWAR",
     "DS HARPOON WITH BARB RIGHTzzvRIGHT DOUBLE ARROW WITH ROUNDED HEADzlEQUALS SIGN ABOVE RIGHTWA",
     "RDS ARROWzjTILDE OPERATOR ABOVE RIGHTWARDS ARROWzmLEFTWARDS ARROW ABOVE TILDE OPERATORzlRIGH",
     "TWARDS ARROW ABOVE TILDE OPERATORoALMOST EQUAL TOznLESS-THAN ABOVE LEFTWARDS ARROWzeFTWARDS ",
     "ARROW THROUGH LESS-THANziGREATER-THAN ABOVE RIGHTWARDS ARROWzkSUBSET ABOVE RIGHTWARDS ARROWz",
     "eLEFTWARDS ARROW THROUGH SUBSETzfSUPERSET ABOVE LEFTWARDS ARROWzfLEFT FISH TAILoRIGHT FISH T",
     "AILpUP FISH TAILmDOWN FISH TAILoTRIPLE VERTICAL BAR DELIMITERzeZ NOTATION SPOTeTYPE COLONvLE",
     "FT WHITE CURLY BRACKETyRIGHT WHITE CURLY BRACKETzLEFT WHITE PARENTHESISwRIGHT WHITE PARENTHE",
     "SISxZ NOTATION LEFT IMAGE BRACKETsRIGHT IMAGE BRACKETtLEFT BINDING BRACKETuRIGHT BINDING BRA",
     "CKETzhLEFT SQUARE BRACKET WITH UNDERBARziRIGHT SQUARE BRACKET WITH UNDERBARzjLEFT SQUARE BRA",
     "CKET WITH TICK IN TOP CORNERzsRIGHT SQUARE BRACKET WITH TICK IN BOTTOM CORNERzwLEFT SQUARE B",
     "RACKET WITH TICK IN BOTTOM CORNERzvRIGHT SQUARE BRACKET WITH TICK IN TOP CORNERztLEFT ANGLE ",
     "BRACKET WITH DOTzcRIGHT ANGLE BRACKET WITH DOTzdLEFT ARC LESS-THAN BRACKETzbRIGHT ARC GREATE",
     "R-THAN BRACKETzfDOUBLE LEFT ARC GREATER-THAN BRACKETzeRIGHT ARC LESS-THAN BRACKETzjLEFT BLAC",
     "K TORTOISE SHELL BRACKETziRIGHT BLACK TORTOISE SHELL BRACKETzjDOTTED FENCEmVERTICAL ZIGZAG L",
     "INEuMEASURED ANGLE OPENING LEFTzcRIGHT ANGLE VARIANT WITH SQUAREzgMEASURED RIGHT ANGLE WITH ",
     "DOTzeANGLE WITH S INSIDEsCUTE ANGLElSPHERICAL ANGLE OPENING LEFTeUPzbTURNED ANGLEmREVERSED A",
     "NGLEoANGLE WITH UNDERBARtREVERSED ANGLE WITH UNDERBARzdOBLIQUE ANGLE OPENING UPcDOWNzbMEASUR",
     "ED ANGLE WITH OPEN ARM ENDING IN ARROW POINTING UP AND RIGHTfLEFTlDOWN AND RIGHTfLEFTnRIGHT ",
     "AND UPmLEFT AND UPlRIGHT AND DOWNoLEFT AND DOWNzzrREVERSED EMPTY SETsEMPTY SET WITH OVERBARh",
     "SMALL CIRCLE ABOVEsRIGHT ARROW ABOVErLEFT ARROW ABOVEzgCIRCLE WITH HORIZONTAL BARuD VERTICAL",
     " BARmPARALLELiREVERSE SOLIDUSpPERPENDICULARp DIVIDED BY HORIZONTAL BAR AND TOP HALF DIVIDED ",
     "BY VERTICAL BARzzmWITH SUPERIMPOSED XuD ANTICLOCKWISE-ROTATED DIVISION SIGNzsUP ARROW THROUG",
     "H CIRCLExCIRCLED WHITE BULLETmBULLETgLESS-THANjGREATER-THANo WITH SMALL CIRCLE TO THE RIGHTz",
     "TWO HORIZONTAL STROKES TO THE RIGHTzwSQUARED RISING DIAGONAL SLASHvFALLING DIAGONAL SLASHwAS",
     "TERISKiSMALL CIRCLElQUAREoTWO JOINED SQUARESrRIANGLE WITH DOT ABOVEjUNDERBARwS IN TRIANGLEnT",
     "RIANGLE WITH SERIFS AT BOTTOMzfRIGHT TRIANGLE ABOVE LEFT TRIANGLEzjLEFT TRIANGLE BESIDE VERT",
     "ICAL BARziVERTICAL BAR BESIDE RIGHT TRIANGLEzjBOWTIE WITH LEFT HALF BLACKpRIGHT HALF BLACKzc",
     "LACK BOWTIEmTIMES WITH LEFT HALF BLACKpRIGHT HALF BLACKzcWHITE HOURGLASSpBLACK HOURGLASSpLEF",
     "T WIGGLY FENCErRIGHT WIGGLY FENCEsLEFT DOUBLE WIGGLY FENCEyRIGHT DOUBLE WIGGLY FENCEzINCOMPL",
     "ETE INFINITYtTIE OVER INFINITYrINFINITY NEGATED WITH VERTICAL BARzjDOUBLE-ENDED MULTIMAPvSQU",
     "ARE WITH CONTOURED OUTLINEzeINCREASES ASmSHUFFLE PRODUCTpEQUALS SIGN AND SLANTED PARALLELa W",
     "ITH TILDE ABOVEzyIDENTICAL TO AND SLANTED PARALLELziGLEICH STARKmTHERMODYNAMICnDOWN-POINTING",
     " TRIANGLE WITH LEFT HALF BLACKpRIGHT HALF BLACKztBLACK DIAMOND WITH DOWN ARROWxLOZENGEnWHITE",
     " CIRCLE WITH DOWN ARROWzdBLACK CIRCLE WITH DOWN ARROWzdERROR-BARRED WHITE SQUAREmBLACK SQUAR",
     "EmWHITE DIAMONDnBLACK DIAMONDnWHITE CIRCLEmBLACK CIRCLEzRULE-DELAYEDlEVERSE SOLIDUS OPERATOR",
     "ySOLIDUS WITH OVERBARuREVERSE SOLIDUS WITH HORIZONTAL STROKEznBIG SOLIDUShREVERSE SOLIDUStDO",
     "UBLE PLUSlTRIPLE PLUSlLEFT-POINTING CURVED ANGLE BRACKETzjRIGHT-POINTING CURVED ANGLE BRACKE",
     "TzkTINYeMINYeN-ARY CIRCLED DOT OPERATORmPLUS OPERATORnTIMES OPERATORwUNION OPERATOR WITH DOT",
     "dPLUSySQUARE INTERSECTION OPERATORvUNION OPERATORzcTWO LOGICAL AND OPERATORmOR OPERATORxN-AR",
     "Y TIMES OPERATORuMODULO TWO SUMoSUMMATION WITH INTEGRALxQUADRUPLE INTEGRAL OPERATORzcFINITE ",
     "PART INTEGRALuINTEGRAL WITH DOUBLE STROKEsAVERAGE WITH SLASHzcCIRCULATION FUNCTIONuANTICLOCK",
     "WISE INTEGRATIONzLINE INTEGRATION WITH RECTANGULAR PATH AROUND POLEzdSEMICIRCULAR PATH AROUN",
     "D POLEzjNOT INCLUDING THE POLEzoINTEGRAL AROUND A POINT OPERATORzhQUATERNION INTEGRAL OPERAT",
     "ORzdINTEGRAL WITH LEFTWARDS ARROW WITH HOOKzTIMES SIGNkINTERSECTIONmUNIONfOVERBARhUNDERBARwJ",
     "OINeLARGE LEFT TRIANGLE OPERATORzdZ NOTATION SCHEMA COMPOSITIONlPIPINGfROJECTIONzdPLUS SIGN ",
     "WITH SMALL CIRCLE ABOVEsCIRCUMFLEX ACCENT ABOVExTILDE ABOVElDOT BELOWjTILDE BELOWlSUBSCRIPT ",
     "TWOnBLACK TRIANGLEzeMINUS SIGN WITH COMMA ABOVElDOT BELOWjFALLING DOTSmRISING DOTSzcPLUS SIG",
     "N IN LEFT HALF CIRCLEqRIGHT HALF CIRCLEzfVECTOR OR CROSS PRODUCTxMULTIPLICATION SIGN WITH DO",
     "T ABOVEjUNDERBARziSEMIDIRECT PRODUCT WITH BOTTOM CLOSEDzlMASH PRODUCTnMULTIPLICATION SIGN IN",
     " LEFT HALF CIRCLEqRIGHT HALF CIRCLEzpCIRCLED MULTIPLICATION SIGN WITH CIRCUMFLEX ACCENTzzMUL",
     "TIPLICATION SIGN IN DOUBLE CIRCLEzlCIRCLED DIVISION SIGNvPLUS SIGN IN TRIANGLEvMINUS SIGN IN",
     " TRIANGLEvULTIPLICATION SIGN IN TRIANGLEzgINTERIOR PRODUCTqRIGHTHAND INTERIOR PRODUCTzbZ NOT",
     "ATION RELATIONAL COMPOSITIONziAMALGAMATION OR COPRODUCTzINTERSECTION WITH DOTvUNION WITH MIN",
     "US SIGNkOVERBARsINTERSECTION WITH OVERBARhLOGICAL ANDzeUNION WITH LOGICAL ORpABOVE INTERSECT",
     "IONyINTERSECTION ABOVE UNIONyUNION ABOVE BAR ABOVE INTERSECTIONzjINTERSECTION ABOVE BAR ABOV",
     "E UNIONzjUNION BESIDE AND JOINED WITH UNIONzjINTERSECTION BESIDE AND JOINED WITH INTERSECTIO",
     "NzxCLOSED UNION WITH SERIFSrINTERSECTION WITH SERIFSzgDOUBLE SQUARE INTERSECTIONmUNIONtCLOSE",
     "D UNION WITH SERIFS AND SMASH PRODUCTzrLOGICAL AND WITH DOT ABOVEsOR WITH DOT ABOVEzDOUBLE L",
     "OGICAL ANDdORrTWO INTERSECTING LOGICAL ANDdORzcSLOPING LARGE ORcANDrLOGICAL OR OVERLAPPING L",
     "OGICAL ANDzbAND WITH MIDDLE STEMuOR WITH MIDDLE STEMtAND WITH HORIZONTAL DASHyOR WITH HORIZO",
     "NTAL DASHxAND WITH DOUBLE OVERBARoUNDERBARiDOUBLE UNDERBARzhSMALL VEE WITH UNDERBARxLOGICAL ",
     "OR WITH DOUBLE OVERBARhUNDERBARzgZ NOTATION DOMAIN ANTIRESTRICTIONwRANGE ANTIRESTRICTIONzhEQ",
     "UALS SIGN WITH DOT BELOWzbIDENTICAL WITH DOT ABOVEyTRIPLE HORIZONTAL BAR WITH DOUBLE VERTICA",
     "L STROKEwTRIPLE VERTICAL STROKEzxILDE OPERATOR WITH DOT ABOVEjRISING DOTSzgSIMILAR MINUS SIM",
     "ILARvCONGRUENT WITH DOT ABOVEyEQUALS WITH ASTERISKuALMOST EQUAL TO WITH CIRCUMFLEX ACCENTzmP",
     "PROXIMATELY EQUAL OR EQUAL TOzgEQUALS SIGN ABOVE PLUS SIGNzcPLUS SIGN ABOVE EQUALS SIGNzcEQU",
     "ALS SIGN ABOVE TILDE OPERATORzhDOUBLE COLON EQUALsTWO CONSECUTIVE EQUALS SIGNSzcHREE CONSECU",
     "TIVE EQUALS SIGNSzfEQUALS SIGN WITH TWO DOTS ABOVE AND TWO DOTS BELOWzwIVALENT WITH FOUR DOT",
     "S ABOVEzgLESS-THAN WITH CIRCLE INSIDEzdGREATER-THAN WITH CIRCLE INSIDEzgLESS-THAN WITH QUEST",
     "ION MARK ABOVEzjGREATER-THAN WITH QUESTION MARK ABOVEzmLESS-THAN OR SLANTED EQUAL TOzeGREATE",
     "R-THAN OR SLANTED EQUAL TOzhLESS-THAN OR SLANTED EQUAL TO WITH DOT INSIDEzuGREATER-THAN OR S",
     "LANTED EQUAL TO WITH DOT INSIDEzxLESS-THAN OR SLANTED EQUAL TO WITH DOT ABOVEztGREATER-THAN ",
     "OR SLANTED EQUAL TO WITH DOT ABOVEzwLESS-THAN OR SLANTED EQUAL TO WITH DOT ABOVE RIGHTzzGREA",
     "TER-THAN OR SLANTED EQUAL TO WITH DOT ABOVE LEFTzzcLESS-THAN OR APPROXIMATEyGREATER-THAN OR ",
     "APPROXIMATEzcLESS-THAN AND SINGLE-LINE NOT EQUAL TOznGREATER-THAN AND SINGLE-LINE NOT EQUAL ",
     "TOzqLESS-THAN AND NOT APPROXIMATEzeGREATER-THAN AND NOT APPROXIMATEzhLESS-THAN ABOVE DOUBLE-",
     "LINE EQUAL ABOVE GREATER-THANzzcGREATER-THAN ABOVE DOUBLE-LINE EQUAL ABOVE LESS-THANzzcLESS-",
     "THAN ABOVE SIMILAR OR EQUALzhGREATER-THAN ABOVE SIMILAR OR EQUALzkLESS-THAN ABOVE SIMILAR AB",
     "OVE GREATER-THANzrGREATER-THAN ABOVE SIMILAR ABOVE LESS-THANzrLESS-THAN ABOVE GREATER-THAN A",
     "BOVE DOUBLE-LINE EQUALzzcGREATER-THAN ABOVE LESS-THAN ABOVE DOUBLE-LINE EQUALzzcLESS-THAN AB",
     "OVE SLANTED EQUAL ABOVE GREATER-THAN ABOVE SLANTED EQUALzzsGREATER-THAN ABOVE SLANTED EQUAL ",
     "ABOVE LESS-THAN ABOVE SLANTED EQUALzzsSLANTED EQUAL TO OR LESS-THANjGREATER-THANmLESS-THAN W",
     "ITH DOT INSIDEzGREATER-THAN WITH DOT INSIDEzxDOUBLE-LINE EQUAL TO OR LESS-THANjGREATER-THANy",
     "SLANTED EQUAL TO OR LESS-THANjGREATER-THANztSIMILAR OR LESS-THANjGREATER-THANpABOVE LESS-THA",
     "N ABOVE EQUALS SIGNzcGREATER-THAN ABOVE EQUALS SIGNztDOUBLE NESTED LESS-THANjGREATER-THANmLE",
     "SS-THAN WITH UNDERBARzmGREATER-THAN OVERLAPPING LESS-THANvBESIDE LESS-THANzeLESS-THAN CLOSED",
     " BY CURVEzGREATER-THAN CLOSED BY CURVEzdLESS-THAN CLOSED BY CURVE ABOVE SLANTED EQUALzuGREAT",
     "ER-THAN CLOSED BY CURVE ABOVE SLANTED EQUALzxSMALLER THANmLARGER THANlSMALLER THAN OR EQUAL ",
     "TOyLARGER THAN OR EQUAL TOxEQUALS SIGN WITH BUMPY ABOVEzdPRECEDES ABOVE SINGLE-LINE EQUALS S",
     "IGNznSUCCEEDS ABOVE SINGLE-LINE EQUALS SIGNznPRECEDES ABOVE SINGLE-LINE NOT EQUAL TOzoSUCCEE",
     "DS ABOVE SINGLE-LINE NOT EQUAL TOzoPRECEDES ABOVE EQUALS SIGNzbSUCCEEDS ABOVE EQUALS SIGNzbP",
     "RECEDES ABOVE NOT EQUAL TOzcSUCCEEDS ABOVE NOT EQUAL TOzcPRECEDES ABOVE ALMOST EQUAL TOzfSUC",
     "CEEDS ABOVE ALMOST EQUAL TOzfPRECEDES ABOVE NOT ALMOST EQUAL TOzjSUCCEEDS ABOVE NOT ALMOST E",
     "QUAL TOzjDOUBLE PRECEDESiSUCCEEDSpSUBSET WITH DOTnPERSET WITH DOTpBSET WITH PLUS SIGN BELOWz",
     "PERSET WITH PLUS SIGN BELOWzcBSET WITH MULTIPLICATION SIGN BELOWzkPERSET WITH MULTIPLICATION",
     " SIGN BELOWzmBSET OF OR EQUAL TO WITH DOT ABOVEzjPERSET OF OR EQUAL TO WITH DOT ABOVEzlBSET ",
     "OF ABOVE EQUALS SIGNzPERSET OF ABOVE EQUALS SIGNzcBSET OF ABOVE TILDE OPERATORzdPERSET OF AB",
     "OVE TILDE OPERATORzfBSET OF ABOVE ALMOST EQUAL TOzePERSET OF ABOVE ALMOST EQUAL TOzgBSET OF ",
     "ABOVE NOT EQUAL TOzbPERSET OF ABOVE NOT EQUAL TOzeQUARE LEFT OPEN BOX OPERATORwRIGHT OPEN BO",
     "X OPERATORzfCLOSED SUBSETePERSETgBSET OR EQUAL TOqPERSET OR EQUAL TOzcSUBSET ABOVE SUPERSETt",
     "PERSET ABOVE SUBSETtBSET ABOVE SUBSETrPERSET ABOVE SUPERSEToBESIDE SUBSETgAND JOINED BY DASH",
     " WITH SUBSETzvELEMENT OF OPENING DOWNWARDSzdPITCHFORK WITH TEE TOPwTRANSVERSAL INTERSECTIONy",
     "FORKINGhNONFORKINGkSHORT LEFT TACKjDOWN TACKjUP TACKnPERPENDICULAR WITH SuVERTICAL BAR TRIPL",
     "E RIGHT TURNSTILEzkDOUBLE VERTICAL BAR LEFT TURNSTILEzjVERTICAL BAR DOUBLE LEFT TURNSTILEzjD",
     "OUBLE VERTICAL BAR DOUBLE LEFT TURNSTILEzqLONG DASH FROM LEFT MEMBER OF DOUBLE VERTICALzuSHO",
     "RT DOWN TACK WITH OVERBARwUP TACK WITH UNDERBARnABOVE SHORT DOWN TACKzkDOUBLE DOWN TACKjUP T",
     "ACKhSTROKE NOT SIGNwREVERSED DOUBLE STROKE NOT SIGNzgDOES NOT DIVIDE WITH REVERSED NEGATION ",
     "SLASHztVERTICAL LINE WITH CIRCLE ABOVEfBELOWzgDOWN TACK WITH CIRCLE BELOWzcPARALLEL WITH HOR",
     "IZONTAL STROKErTILDE OPERATORzdTRIPLE VERTICAL BAR BINARY RELATIONpWITH HORIZONTAL STROKEzkC",
     "OLON OPERATORoNESTED LESS-THANjGREATER-THANzbDOUBLE-LINE SLANTED LESS-THAN OR EQUAL TOvGREAT",
     "ER-THAN OR EQUAL TOztTRIPLE SOLIDUS BINARY RELATIONzfLARGE TRIPLE VERTICAL BAR OPERATORzjDOU",
     "BLE SOLIDUS OPERATORxWHITE VERTICAL BARsN-ARY WHITE VERTICAL BARxORTH EAST WHITE ARROWqWEST ",
     "WHITE ARROWwSOUTH EAST WHITE ARROWqWEST WHITE ARROWwLEFT RIGHT WHITE ARROWsWARDS BLACK ARROW",
     "vUPWARDS BLACK ARROWtDOWNWARDS BLACK ARROWvNORTH EAST BLACK ARROWqWEST BLACK ARROWwSOUTH EAS",
     "T BLACK ARROWqWEST BLACK ARROWwLEFT RIGHT BLACK ARROWwUP DOWN BLACK ARROWtRIGHTWARDS ARROW W",
     "ITH TIP DOWNWARDSjUPWARDSziLEFTWARDS ARROW WITH TIP DOWNWARDSjUPWARDSzhSQUARE WITH TOP HALF ",
     "BLACKoBOTTOM HALF BLACKrUPPER RIGHT DIAGONAL HALF BLACKzgLOWER LEFT DIAGONAL HALF BLACKzrDIA",
     "MOND WITH LEFT HALF BLACKpRIGHT HALF BLACKqTOP HALF BLACKoBOTTOM HALF BLACKzeOTTED SQUAREnBL",
     "ACK LARGE SQUAREsWHITE LARGE SQUAREsBLACK VERY SMALL SQUARExWHITE VERY SMALL SQUARExBLACK PE",
     "NTAGONoWHITE PENTAGONiHEXAGONnBLACK HEXAGONnHORIZONTAL BLACK HEXAGONyBLACK LARGE CIRCLEmMEDI",
     "UM DIAMONDuWHITE MEDIUM DIAMONDuBLACK MEDIUM LOZENGEuWHITE MEDIUM LOZENGEuBLACK SMALL DIAMON",
     "DhLOZENGEtWHITE SMALL LOZENGEtBLACK HORIZONTAL ELLIPSEyWHITE HORIZONTAL ELLIPSEyBLACK VERTIC",
     "AL ELLIPSEwWHITE VERTICAL ELLIPSEwLEFT ARROW WITH SMALL CIRCLEzdTHREE LEFTWARDS ARROWSwLEFT ",
     "ARROW WITH CIRCLED PLUSzcONG LEFTWARDS SQUIGGLE ARROWzdEFTWARDS TWO-HEADED ARROW WITH VERTIC",
     "AL STROKEpDOUBLE VERTICAL STROKEzcFROM BARoTRIPLE DASH ARROWzdARROW WITH DOTTED STEMlTAIL WI",
     "TH VERTICAL STROKEpDOUBLE VERTICAL STROKEzsTWO-HEADED ARROW WITH TAILa WITH VERTICAL STROKEp",
     "DOUBLE VERTICAL STROKEzzeARROW THROUGH XzWAVE ARROW POINTING DIRECTLY LEFTziEQUALS SIGN ABOV",
     "E LEFTWARDS ARROWziREVERSE TILDE OPERATOR ABOVE LEFTWARDS ARROWztLEFTWARDS ARROW ABOVE REVER",
     "SE ALMOST EQUAL TOzuRIGHTWARDS ARROW THROUGH GREATER-THANmSUPERSETziLEFTWARDS QUADRUPLE ARRO",
     "WzRIGHTWARDS QUADRUPLE ARROWzEVERSE TILDE OPERATOR ABOVE RIGHTWARDS ARROWztIGHTWARDS ARROW A",
     "BOVE REVERSE ALMOST EQUAL TOzvTILDE OPERATOR ABOVE LEFTWARDS ARROWzlLEFTWARDS ARROW ABOVE AL",
     "MOST EQUAL TOpREVERSE TILDE OPERATORztRIGHTWARDS ARROW ABOVE REVERSE TILDE OPERATORzuDOWNWAR",
     "DS TRIANGLE-HEADED ZIGZAG ARROWznSHORT SLANTED NORTH ARROWtBACKSLANTED SOUTH ARROWzeWHITE ME",
     "DIUM STARrBLACK SMALL STARqWHITE SMALL STARqBLACK RIGHT-POINTING PENTAGONzeWHITE RIGHT-POINT",
     "ING PENTAGONzeHEAVY LARGE CIRCLEmOVAL WITH OVAL INSIDEvCIRCLE WITH CIRCLE INSIDEuEaD SALTIRE",
     "vSLANTED NORTH ARROW WITH HOOKED HEADzlBACKSLANTED SOUTH ARROW WITH HOOKED TAILzpSLANTED NOR",
     "TH ARROW WITH HORIZONTAL TAILzpBACKSLANTED SOUTH ARROW WITH HORIZONTAL TAILzsENT ARROW POINT",
     "ING DOWNWARDS THEN NORTH EASTzuSHORT BENT ARROW POINTING DOWNWARDS THEN NORTH EASTzzbLEFTWAR",
     "DS TRIANGLE-HEADED ARROWzgUPWARDS TRIANGLE-HEADED ARROWzeRIGHTWARDS TRIANGLE-HEADED ARROWzhD",
     "OWNWARDS TRIANGLE-HEADED ARROWzgLEFT RIGHT TRIANGLE-HEADED ARROWzhUP DOWN TRIANGLE-HEADED AR",
     "ROWzeNORTH WEST TRIANGLE-HEADED ARROWzbEAST TRIANGLE-HEADED ARROWzhSOUTH EAST TRIANGLE-HEADE",
     "D ARROWzbWEST TRIANGLE-HEADED ARROWzhLEFTWARDS TRIANGLE-HEADED DASHED ARROWznUPWARDS TRIANGL",
     "E-HEADED DASHED ARROWzlRIGHTWARDS TRIANGLE-HEADED DASHED ARROWzoDOWNWARDS TRIANGLE-HEADED DA",
     "SHED ARROWznCLOCKWISE TRIANGLE-HEADED OPEN CIRCLE ARROWzsANTICLOCKWISE TRIANGLE-HEADED OPEN ",
     "CIRCLE ARROWzwLEFTWARDS TRIANGLE-HEADED ARROW TO BARznUPWARDS TRIANGLE-HEADED ARROW TO BARzl",
     "RIGHTWARDS TRIANGLE-HEADED ARROW TO BARzoDOWNWARDS TRIANGLE-HEADED ARROW TO BAR"]⟩,
  ⟨0x2B76, ["NORTH WEST TRIANGLE-HEADED ARROW TO BARziEAST TRIANGLE-HEADED ARROW TO BARzoSOUTH EAS",
     "T TRIANGLE-HEADED ARROW TO BARziWEST TRIANGLE-HEADED ARROW TO BARzoLEFTWARDS TRIANGLE-HEADED",
     " ARROW WITH DOUBLE HORIZONTAL STROKEzzlUPWARDS TRIANGLE-HEADED ARROW WITH DOUBLE HORIZONTAL ",
     "STROKEzzjRIGHTWARDS TRIANGLE-HEADED ARROW WITH DOUBLE HORIZONTAL STROKEzzmDOWNWARDS TRIANGLE",
     "-HEADED ARROW WITH DOUBLE HORIZONTAL STROKEzzlHORIZONTAL TAB KEYsVERTICAL TAB KEYqLEFTWARDS ",
     "TRIANGLE-HEADED ARROW OVER RIGHTWARDS TRIANGLE-HEADED ARROWzztUPWARDS TRIANGLE-HEADED ARROW ",
     "LEFTWARDS OF DOWNWARDS TRIANGLE-HEADED ARROWzzyRIGHTWARDS TRIANGLE-HEADED ARROW OVER LEFTWAR",
     "DS TRIANGLE-HEADED ARROWzztDOWNWARDS TRIANGLE-HEADED ARROW LEFTWARDS OF UPWARDS TRIANGLE-HEA",
     "DED ARROWzzyLEFTWARDS TRIANGLE-HEADED PAIRED ARROWSzoUPWARDS TRIANGLE-HEADED PAIRED ARROWSzm",
     "RIGHTWARDS TRIANGLE-HEADED PAIRED ARROWSzpDOWNWARDS TRIANGLE-HEADED PAIRED ARROWSzoLEFTWARDS",
     " BLACK CIRCLED WHITE ARROWzkUPWARDS BLACK CIRCLED WHITE ARROWziRIGHTWARDS BLACK CIRCLED WHIT",
     "E ARROWzlDOWNWARDS BLACK CIRCLED WHITE ARROWzkANTICLOCKWISE TRIANGLE-HEADED RIGHT U-SHAPED A",
     "RROWuBOTTOM U-SHAPED ARROWvLEFT U-SHAPED ARROWtTOP U-SHAPED ARROWzxRETURN LEFTeRIGHTmNEWLINE",
     " LEFTeRIGHTnFOUR CORNER ARROWS CIRCLING ANTICLOCKWISEzqRIGHTWARDS BLACK ARROW"]⟩,
  ⟨0x2B97, ["SYMBOL FOR TYPE A ELECTRONICSzeTHREE-D TOP-LIGHTED LEFTWARDS EQUILATERAL ARROWHEADzsR",
     "IGHT-LIGHTED UPWARDS EQUILATERAL ARROWHEADzsTOP-LIGHTED RIGHTWARDS EQUILATERAL ARROWHEADztLE",
     "FT-LIGHTED DOWNWARDS EQUILATERAL ARROWHEADzzcBLACK LEFTWARDS EQUILATERAL ARROWHEADzgUPWARDS ",
     "EQUILATERAL ARROWHEADzeRIGHTWARDS EQUILATERAL ARROWHEADzhDOWNWARDS EQUILATERAL ARROWHEADzmDO",
     "WNWARDS TRIANGLE-HEADED ARROW WITH LONG TIP LEFTWARDSjRIGHTWARDSzzgUPWARDS TRIANGLE-HEADED A",
     "RROW WITH LONG TIP LEFTWARDSjRIGHTWARDSzzeLEFTWARDS TRIANGLE-HEADED ARROW WITH LONG TIP UPWA",
     "RDSzzdRIGHTWARDS TRIANGLE-HEADED ARROW WITH LONG TIP UPWARDSzzeLEFTWARDS TRIANGLE-HEADED ARR",
     "OW WITH LONG TIP DOWNWARDSzzfRIGHTWARDS TRIANGLE-HEADED ARROW WITH LONG TIP DOWNWARDSzzgBLAC",
     "K CURVED DOWNWARDS AND LEFTWARDS ARROWpRIGHTWARDS ARROWzfUPWARDS AND LEFTWARDS ARROWpRIGHTWA",
     "RDS ARROWzdLEFTWARDS AND UPWARDS ARROWzcRIGHTWARDS AND UPWARDS ARROWzdLEFTWARDS AND DOWNWARD",
     "S ARROWzeRIGHTWARDS AND DOWNWARDS ARROWzsRIBBON ARROW DOWN LEFTeRIGHTkUP LEFTeRIGHTiLEFT UPh",
     "RIGHT UPiLEFT DOWNjRIGHT DOWNxUPWARDS WHITE ARROW FROM BAR WITH HORIZONTAL BARzv ARROWHEAD I",
     "N A RECTANGLE BOXzgOVERLAPPING WHITE SQUAREShAND BLACK SQUARESxBLACK SQUARESzBALLOT BOX WITH",
     " LIGHT XxCIRCLED XbBOLD XoBLACK SQUARE CENTREDoDIAMOND CENTREDvTURNED BLACK PENTAGONvHORIZON",
     "TAL BLACK OCTAGONyBLACK OCTAGONhMEDIUM UP-POINTING TRIANGLE CENTREDzdDOWN-POINTING TRIANGLE ",
     "CENTREDzfLEFT-POINTING TRIANGLE CENTREDzfRIGHT-POINTING TRIANGLE CENTREDztNEPTUNE FORM TWOqT",
     "OP HALF BLACK CIRCLEvBOTTOM HALF BLACK CIRCLEyLIGHT FOUR POINTED BLACK CUSPzeROTATED LIGHT F",
     "OUR POINTED BLACK CUSPzmWHITE FOUR POINTED CUSPxROTATED WHITE FOUR POINTED CUSPzgSQUARE POSI",
     "TION INDICATORzUNCERTAINTY SIGNqGROUP MARKkPLUTO FORM TWOcHREEfFOURdIVEpTRANSPLUTOkPROSERPIN",
     "AkASTRAEAhHYGIEAgPHOLUSgNESSUSgWHITE MOON SELENArBLACK DIAMOND ON CROSSwTRUE LIGHT MOON ARTA",
     "uCUPIDOgHADESfZEUSeKRONOSgAPOLLONgDMETOShVULCANUSiPOSEIDONiLEFT HALF BLACK STARuRIGHT HALF B",
     "LACK STARvSTAR WITH LEFT HALF BLACKpRIGHT HALF BLACKzbLEFTWARDS TWO-HEADED ARROW WITH TRIANG",
     "LE ARROWHEADSzzbUPWARDS TWO-HEADED ARROW WITH TRIANGLE ARROWHEADSzyRIGHTWARDS TWO-HEADED ARR",
     "OW WITH TRIANGLE ARROWHEADSzzcDOWNWARDS TWO-HEADED ARROW WITH TRIANGLE ARROWHEADSzzbERIS FOR",
     "M ONEdTWOnSEDNAfRUSSIAN ASTROLOGICAL SYMBOL VIGINTILEjNOVILEgQUINTILEiBINOVILEiSENTAGONiTRED",
     "ECILEzmEQUALS SIGN WITH INFINITY BELOWzgUNITED SYMBOLnSEPARATED SYMBOLqDOUBLED SYMBOLoPASSED",
     " SYMBOLnREVERSED RIGHT ANGLEuHELLSCHREIBER PAUSE SYMBOLzbGLAGOLITIC CAPITAL LETTER AZUdBUKYe",
     "VEDEeGLAGOLIhDOBROfYESTUfZHIVETEhDZELOfZEMLJAgIZHEdNITIAL IZHEmIbDJERVIgKAKOeLJUDIJEhMYSLITE",
     "hNASHIfONUdPOKOJIgRITSIfSLOVOfTVRIDOgUKUdFRITUfHERUeOTUdPEcSHTAeTSIdCHRIVIgSHAdYERUbIdATIeSP",
     "IDERY HAkYUcSMALL YUSa WITH TAILtYOcIOTATED SMALL YUSrBIG YUShIOTATED BIG YUSpFITAeIZHITSAhS",
     "HTAPIChTROKUTASTI AmLATINATE MYSLITEqCAUDATE CHRIVIzeSMALL LETTER AZUdBUKYeVEDEeGLAGOLIhDOBR",
     "OfYESTUfZHIVETEhDZELOfZEMLJAgIZHEdNITIAL IZHEmIbDJERVIgKAKOeLJUDIJEhMYSLITEhNASHIfONUdPOKOJI",
     "gRITSIfSLOVOfTVRIDOgUKUdFRITUfHERUeOTUdPEcSHTAeTSIdCHRIVIgSHAdYERUbIdATIeSPIDERY HAkYUcSMALL",
     " YUSa WITH TAILtYOcIOTATED SMALL YUSrBIG YUShIOTATED BIG YUSpFITAeIZHITSAhSHTAPIChTROKUTASTI",
     " AmLATINATE MYSLITEqCAUDATE CHRIVIznLATIN CAPITAL LETTER L WITH DOUBLE BARzhSMALL LETTER L W",
     "ITH DOUBLE BARzfCAPITAL LETTER L WITH MIDDLE TILDEtP WITH STROKEnR WITH TAILzbSMALL LETTER A",
     " WITH STROKEnT WITH DIAGONAL STROKEzkCAPITAL LETTER H WITH DESCENDERzgSMALL LETTER H WITH DE",
     "SCENDERzeCAPITAL LETTER K WITH DESCENDERzgSMALL LETTER K WITH DESCENDERzeCAPITAL LETTER Z WI",
     "TH DESCENDERzgSMALL LETTER Z WITH DESCENDERzeCAPITAL LETTER ALPHAfM WITH HOOKlTURNED AaLPHAz",
     "cSMALL LETTER V WITH RIGHT HOOKzfCAPITAL LETTER W WITH HOOKzbSMALL LETTER W WITH HOOKlV WITH",
     " CURLyCAPITAL LETTER HALF HvSMALL LETTER HALF HgTAILLESS PHImE WITH NOTCHmTURNED R WITH TAIL",
     "sO WITH LOW RING INSIDEzkLETTER SMALL CAPITAL TURNED EzeSUBSCRIPT SMALL LETTER JzfMODIFIER L",
     "ETTER CAPITAL VzLATIN CAPITAL LETTER S WITH SWASH TAILrZ WITH SWASH TAILznCOPTIC CAPITAL LET",
     "TER ALFAtSMALL LETTER ALFArCAPITAL LETTER VIDAtSMALL LETTER VIDArCAPITAL LETTER GAMMAuSMALL ",
     "LETTER GAMMAsCAPITAL LETTER DALDAuSMALL LETTER DALDAsCAPITAL LETTER EIEsSMALL LETTER EIEqCAP",
     "ITAL LETTER SOUsSMALL LETTER SOUqCAPITAL LETTER ZATAtSMALL LETTER ZATArCAPITAL LETTER HATEtS",
     "MALL LETTER HATErCAPITAL LETTER THETHEvSMALL LETTER THETHEtCAPITAL LETTER IAUDAuSMALL LETTER",
     " IAUDAsCAPITAL LETTER KAPAtSMALL LETTER KAPArCAPITAL LETTER LAULAuSMALL LETTER LAULAsCAPITAL",
     " LETTER MIrSMALL LETTER MIpCAPITAL LETTER NIrSMALL LETTER NIpCAPITAL LETTER KSIsSMALL LETTER",
     " KSIqCAPITAL LETTER OqSMALL LETTER OoCAPITAL LETTER PIrSMALL LETTER PIpCAPITAL LETTER ROrSMA",
     "LL LETTER ROpCAPITAL LETTER SIMAtSMALL LETTER SIMArCAPITAL LETTER TAUsSMALL LETTER TAUqCAPIT",
     "AL LETTER UArSMALL LETTER UApCAPITAL LETTER FIrSMALL LETTER FIpCAPITAL LETTER KHIsSMALL LETT",
     "ER KHIqCAPITAL LETTER PSIsSMALL LETTER PSIqCAPITAL LETTER OOUsSMALL LETTER OOUqCAPITAL LETTE",
     "R DIALECT-P ALEFzeSMALL LETTER DIALECT-P ALEFzcCAPITAL LETTER OLD COPTIC AINzeSMALL LETTER O",
     "LD COPTIC AINzcCAPITAL LETTER CRYPTOGRAMMIC EIEzhSMALL LETTER CRYPTOGRAMMIC EIEzfCAPITAL LET",
     "TER DIALECT-P KAPAzeSMALL LETTER DIALECT-P KAPAzcCAPITAL LETTER DIALECT-P NIzcSMALL LETTER D",
     "IALECT-P NIzCAPITAL LETTER CRYPTOGRAMMIC NIzgSMALL LETTER CRYPTOGRAMMIC NIzeCAPITAL LETTER O",
     "LD COPTIC OOUzeSMALL LETTER OLD COPTIC OOUzcCAPITAL LETTER SAMPIuSMALL LETTER SAMPIsCAPITAL ",
     "LETTER CROSSED SHEIzcSMALL LETTER CROSSED SHEIzCAPITAL LETTER OLD COPTIC SHEIzfSMALL LETTER ",
     "OLD COPTIC SHEIzdCAPITAL LETTER OLD COPTIC ESHzeSMALL LETTER OLD COPTIC ESHzcCAPITAL LETTER ",
     "AKHMIMIC KHEIzdSMALL LETTER AKHMIMIC KHEIzbCAPITAL LETTER DIALECT-P HORIzeSMALL LETTER DIALE",
     "CT-P HORIzcCAPITAL LETTER OLD COPTIC HORIzfSMALL LETTER OLD COPTIC HORIzdCAPITAL LETTER OLD ",
     "COPTIC HAzdSMALL LETTER OLD COPTIC HAzbCAPITAL LETTER L-SHAPED HAzbSMALL LETTER L-SHAPED HAy",
     "CAPITAL LETTER OLD COPTIC HEIzeSMALL LETTER OLD COPTIC HEIzcCAPITAL LETTER OLD COPTIC HATzeS",
     "MALL LETTER OLD COPTIC HATzcCAPITAL LETTER OLD COPTIC GANGIAzhSMALL LETTER OLD COPTIC GANGIA",
     "zfCAPITAL LETTER OLD COPTIC DJAzeSMALL LETTER OLD COPTIC DJAzcCAPITAL LETTER OLD COPTIC SHIM",
     "AzgSMALL LETTER OLD COPTIC SHIMAzeCAPITAL LETTER OLD NUBIAN SHIMAzgSMALL LETTER OLD NUBIAN S",
     "HIMAzeCAPITAL LETTER OLD NUBIAN NGIzeSMALL LETTER OLD NUBIAN NGIzcCAPITAL LETTER OLD NUBIAN ",
     "NYIzeSMALL LETTER OLD NUBIAN NYIzcCAPITAL LETTER OLD NUBIAN WAUzeSMALL LETTER OLD NUBIAN WAU",
     "zbYMBOL KAIdMI ROfPI ROfSTAUROShTAU ROgKHI ROgSHIMA SIMArCAPITAL LETTER CRYPTOGRAMMIC SHEIzi",
     "SMALL LETTER CRYPTOGRAMMIC SHEIzgCAPITAL LETTER CRYPTOGRAMMIC GANGIAzkSMALL LETTER CRYPTOGRA",
     "MMIC GANGIAziCOMBINING NI ABOVEiSPIRITUS ASPERfLENISxAPITAL LETTER BOHAIRIC KHEIzdSMALL LETT",
     "ER BOHAIRIC KHEI"]⟩,
  ⟨0x2CF9, ["COPTIC OLD NUBIAN FULL STOPjDIRECT QUESTION MARKuINDIRECT QUESTION MARKwVERSE DIVIDER",
     "yFRACTION ONE HALFqULL STOPjMORPHOLOGICAL DIVIDERzdGEORGIAN SMALL LETTER ANcBANdGANdDONdENcV",
     "INdZENdTANdINcKANdLASdMANdNARdONcPARdZHAReRAEdSANdTARdUNcPHAReKHAReGHANeQARdSHINeCHINdANdJIL",
     "dCILcHAReXANdJHANeHAEcEbIEdWEcHARcOE"]⟩,
  ⟨0x2D27, ["GEORGIAN SMALL LETTER YN"]⟩,
  ⟨0x2D2D, ["GEORGIAN SMALL LETTER AEN"]⟩,
  ⟨0x2D30, ["TIFINAGH LETTER YAaBaHcGaHHfBERBER ACADEMY YAJsYAJbDaHbDaHeEYcAFbKdTUAREG YAKkYAKHHdH",
     "dBERBER ACADEMY YAHsTUAREG YAHkYAHHcAbKHeTUAREG YAKHlYAQdTUAREG YAQkYIbAZHeAHAGGAR YAZHmTUAR",
     "EG YAZHlYALbMbNdTUAREG YAGNcNGlYAPcUbARaRcGHeTUAREG YAGHlAYER YAGHjYASaSbHcTaHcCHcTTcVbWbYbZ",
     "dTAWELLEMET YAZoYAZZdEbO"]⟩,
  ⟨0x2D6F, ["TIFINAGH MODIFIER LETTER LABIALIZATION MARKzjSEPARATOR MARK"]⟩,
  ⟨0x2D7F, ["TIFINAGH CONSONANT JOINERzETHIOPIC SYLLABLE LOAdMOAdROAdSOAcHOAeBOAdTOAdCOAdNOAcYOAeG",
     "LOTTAL OAkZOAdDOAcDOAeJOAdTHOAeCHOAePHOAdOAdGGWAbIbEEcE"]⟩,
  ⟨0x2DA0, ["ETHIOPIC SYLLABLE SSAbUbIbAAcEEcEbO"]⟩,
  ⟨0x2DA8, ["ETHIOPIC SYLLABLE CCAbUbIbAAcEEcEbO"]⟩,
  ⟨0x2DB0, ["ETHIOPIC SYLLABLE ZZAbUbIbAAcEEcEbO"]⟩,
  ⟨0x2DB8, ["ETHIOPIC SYLLABLE CCHAbUbIbAAcEEcEbO"]⟩,
  ⟨0x2DC0, ["ETHIOPIC SYLLABLE QYAbUbIbAAcEEcEbO"]⟩,
  ⟨0x2DC8, ["ETHIOPIC SYLLABLE KYAbUbIbAAcEEcEbO"]⟩,
  ⟨0x2DD0, ["ETHIOPIC SYLLABLE XYAbUbIbAAcEEcEbO"]⟩,
  ⟨0x2DD8, ["ETHIOPIC SYLLABLE GYAbUbIbAAcEEcEbO"]⟩,
  ⟨0x2DE0, ["COMBINING CYRILLIC LETTER BEcVEcGHEdDEcZHEcEcKAcELbMbNcObPEcERbScTEcHAcTSEdCHEdSHAbCH",
     "AfFITAeES-TEfAbIEcDJERVfMONOGRAPH UKmYATcUcIOTIFIED AkLITTLE YUSkBIG YUShIOTIFIED BIG YUSzrR",
     "IGHT ANGLE SUBSTITUTION MARKERtDOTTED SUBSTITUTION MARKERznLEFT SUBSTITUTION BRACKETzRIGHT S",
     "UBSTITUTION BRACKETzbLEFT DOTTED SUBSTITUTION BRACKETzhRIGHT DOTTED SUBSTITUTION BRACKETzhAI",
     "SED INTERPOLATION MARKERuDOTTED INTERPOLATION MARKERzjDOTTED TRANSPOSITION MARKERzcLEFT TRAN",
     "SPOSITION BRACKETzbRIGHT TRANSPOSITION BRACKETzbAISED SQUAREnLEFT RAISED OMISSION BRACKETzdR",
     "IGHT RAISED OMISSION BRACKETzeEDITORIAL CORONISrPARAGRAPHOSlFORKED PARAGRAPHOSsREVERSED FORK",
     "ED PARAGRAPHOSzcHYPODIASTOLEmDOTTED OBELOSlWNWARDS ANCORAqUPWARDS ANCORAoDOTTED RIGHT-POINTI",
     "NG ANGLEzUBLE OBLIQUE HYPHENvINVERTED INTERROBANGuPALM BRANCHlHYPHEN WITH DIAERESISvTILDE WI",
     "TH RING ABOVEvLEFT LOW PARAPHRASE BRACKETzcRIGHT LOW PARAPHRASE BRACKETzdTILDE WITH DOT ABOV",
     "EfBELOWuLEFT VERTICAL BAR WITH QUILLzdRIGHT VERTICAL BAR WITH QUILLzeTOP LEFT HALF BRACKETrR",
     "IGHT HALF BRACKETwBOTTOM LEFT HALF BRACKETrRIGHT HALF BRACKETzLEFT SIDEWAYS U BRACKETxRIGHT ",
     "SIDEWAYS U BRACKETyLEFT DOUBLE PARENTHESISxRIGHT DOUBLE PARENTHESISyTWO DOTS OVER ONE DOT PU",
     "NCTUATIONziONE DOT OVER TWO DOTS PUNCTUATIONziSQUARED FOUR DOT PUNCTUATIONzdFIVE DOT MARKnRE",
     "VERSED QUESTION MARKwVERTICAL TILDEoRING POINTkWORD SEPARATOR MIDDLE DOTzTURNED COMMAmRAISED",
     " DOTdCOMMAmTURNED SEMICOLONqDAGGER WITH LEFT GUARDkRIGHT GUARDxTURNED DAGGERmOP HALF SECTION",
     " SIGNuWO-EM DASHkHREE-EM DASHnSTENOGRAPHIC FULL STOPwVERTICAL SIX DOTSrWIGGLY VERTICAL LINEu",
     "CAPITULUMjDOUBLE HYPHENnREVERSED COMMAoDOUBLE LOW-REVERSED-9 QUOTATION MARKzkASH WITH LEFT U",
     "PTURNuOUBLE SUSPENSION MARKwINVERTED LOW KAVYKAa WITH KAVYKA ABOVEzmLOW KAVYKAa WITH DOTtDOU",
     "BLE STACKED COMMAsTTED SOLIDUSoTRIPLE DAGGERnMEDIEVAL COMMAoPARAGRAPHUS MARKpUNCTUS ELEVATUS",
     " MARKvCORNISH VERSE DIVIDERuROSS PATTY WITH RIGHT CROSSBARoLEFT CROSSBARzfTIRONIAN SIGN CAPI",
     "TAL ETyMEDIEVAL EXCLAMATION MARKqQUESTION MARKwLEFT SQUARE BRACKET WITH STROKEzgRIGHT SQUARE",
     " BRACKET WITH STROKEzhLEFT SQUARE BRACKET WITH DOUBLE STROKEznRIGHT SQUARE BRACKET WITH DOUB",
     "LE STROKEzoTOP HALF LEFT PARENTHESISqRIGHT PARENTHESISzbBOTTOM HALF LEFT PARENTHESISqRIGHT P",
     "ARENTHESISzeOBLIQUE HYPHEN"]⟩,
  ⟨0x2E80, ["CJK RADICAL REPEATgCLIFFfSECOND ONEdTWOcHREEmPERSONgBOXdTABLEfKNIFE ONEdTWOjDIVINATIO",
     "NkSEALdMALL ONEdTWOjLAME ONEdTWOcHREEfFOURjSNAKEfTHREADgSNOUT ONEdTWOjHEART ONEdTWOiANDeRAP"]⟩,
  ⟨0x2E9B, ["CJK RADICAL CHOKEfSUNdMOONeDEATHfMOTHERgCIVILIANiWATER ONEdTWOjFIREePAW ONEdTWOhSIMPL",
     "IFIED HALF TREE TRUNKzbCOWdDOGdJADEeBOLT OF CLOTHnEYEdSPIRIT ONEdTWOkBAMBOOgSILKeC-SIMPLIFIE",
     "D SILKrNET ONEdTWOcHREEfFOURiMESHeSHEEPfRAMdEWEdOLDdBRUSH ONEdTWOjMEATdORTARgGRASS ONEdTWOcH",
     "REElTIGERfCLOTHEShWEST ONEdTWOiC-SIMPLIFIED SEEqSIMPLIFIED HORNpHORNeC-SIMPLIFIED SPEECHfHEL",
     "LsFOOTeC-SIMPLIFIED CARTrSIMPLIFIED WALKpWALK ONEdTWOiCITYd-SIMPLIFIED GOLDrLONG ONEdTWOiC-S",
     "IMPLIFIED LONGeGATErMOUND ONEdTWOjRAINeBLUEeC-SIMPLIFIED TANNED LEATHERoLEAFeWINDeFLYqEAT ON",
     "EdTWOcHREEjC-SIMPLIFIED EATqHEADeC-SIMPLIFIED HORSEsBONEeGHOSTfC-SIMPLIFIED FISHeBIRDeSALTrS",
     "IMPLIFIED WHEATfYELLOWrC-SIMPLIFIED FROGrJ-SIMPLIFIED EVENrC-SIMPLIFIED EVENrJ-SIMPLIFIED TO",
     "OTHsC-SIMPLIFIED TOOTHsJ-SIMPLIFIED DRAGONtC-SIMPLIFIED DRAGONtTURTLEgJ-SIMPLIFIED TURTLEtC-",
     "SIMPLIFIED TURTLE"]⟩,
  ⟨0x2F00, ["KANGXI RADICAL ONEdLINEeDOTdSLASHeECONDgHOOKeTWOdLIDdMANdLEGSeENTEReIGHTfDOWN BOXiCOV",
     "ERfICEdTABLEfOPEN BOXiKNIFEfPOWERfWRAPeSPOONfRIGHT OPEN BOXoHIDING ENCLOSUREqTENdDIVINATIONk",
     "SEALeCLIFFfPRIVATEhAGAINfMOUTHfENCLOSUREiARTHfSCHOLARhGOa SLOWLYjEVENINGhBIGdWOMANfCHILDfROO",
     "FeINCHeSMALLfLAMEeCORPSEgSPROUTgMOUNTAINiRIVERfWORKeONESELFhTURBANgDRYdSHORT THREADmDOTTED C",
     "LIFFmLONG STRIDElTWO HANDSjSHOOTfBOWdSNOUTfBRISTLEhSTEPeHEARTeALBERDhDOOReHANDeBRANCHgRAPdSC",
     "RIPTgDIPPERgAXEdSQUAREgNOTdSUNcAYdMOONeTREEeLACKeSTOPeDEATHfWEAPONgDO NOTgCOMPAREhFURdCLANeS",
     "TEAMfWATERfFIREeCLAWeFATHERgDOUBLE XiHALF TREE TRUNKpSLICEfFANGeCOWdDOGdPROFOUNDiJADEeMELONf",
     "TILEeSWEETfLIFEeUSEdFIELDfBOLT OF CLOTHnSICKNESSiDOTTED TENTlWHITEfSKINeDISHeEYEdSPEARfARROW",
     "fSTONEePIRITgTRACKfGRAINfCAVEeSTANDfBAMBOOgRICEeSILKeJARdNETdSHEEPfFEATHERhOLDdANDdPLOWeEARd",
     "BRUSHfMEATdINISTERiSELFeARRIVEgMORTARgTONGUEgOPPOSEgBOATeSTOPPINGiCOLORfGRASSfTIGERfINSECTgB",
     "LOODfWALK ENCLOSUREoCLOTHEShWESTeSEEdHORNeSPEECHgVALLEYgBEANePIGdBADGERgSHELLfREDcUNdFOOTeBO",
     "DYeCARTeBITTERgMORNINGhWALKeCITYeWINEeDISTINGUISHlVILLAGEhGOLDeLONGeGATEeMOUNDfSLAVEeHORT TA",
     "ILED BIRDrRAINeBLUEeWRONGfFACEeLEATHERhTANNED LEATHERoLEEKeSOUNDfLEAFeWINDeFLYdEATdHEADeFRAG",
     "RANTiHORSEfBONEeTALLeHAIReFIGHTfSACRIFICIAL WINEqCAULDRONiGHOSTfFISHeBIRDeSALTeDEEReWHEATfHE",
     "MPeYELLOWgMILLETgBLACKfEMBROIDERYkFROGeTRIPODgDRUMeRATdNOSEeEVENeTOOTHfDRAGONgTURTLEgFLUTE"]⟩,
  ⟨0x2FF0, ["IDEOGRAPHIC DESCRIPTION CHARACTER LEFT TO RIGHTnABOVE TO BELOWoLEFT TO MIDDLE AND RIG",
     "HTyABOVE TO MIDDLE AND BELOWzFULL SURROUNDnSURROUND FROM ABOVEfBELOWfLEFTeUPPER LEFTeRIGHTlL",
     "OWER LEFTyOVERLAID"]⟩,
  ⟨0x3000, ["IDEOGRAPHIC SPACEfCOMMAfFULL STOPvDITTO MARKkJAPANESE INDUSTRIAL STANDARD SYMBOLzkIDE",
     "OGRAPHIC ITERATION MARKoCLOSING MARKmNUMBER ZEROxLEFT ANGLE BRACKETsRIGHT ANGLE BRACKETtLEFT",
     " DOUBLE ANGLE BRACKETzRIGHT DOUBLE ANGLE BRACKETzbLEFT CORNER BRACKETtRIGHT CORNER BRACKETuL",
     "EFT WHITE CORNER BRACKETzRIGHT WHITE CORNER BRACKETzbLEFT BLACK LENTICULAR BRACKETzeRIGHT BL",
     "ACK LENTICULAR BRACKETzfPOSTAL MARKlGETA MARKjLEFT TORTOISE SHELL BRACKETzcRIGHT TORTOISE SH",
     "ELL BRACKETzdLEFT WHITE LENTICULAR BRACKETzeRIGHT WHITE LENTICULAR BRACKETzfLEFT WHITE TORTO",
     "ISE SHELL BRACKETziRIGHT WHITE TORTOISE SHELL BRACKETzjLEFT WHITE SQUARE BRACKETzRIGHT WHITE",
     " SQUARE BRACKETzbWAVE DASHjREVERSED DOUBLE PRIME QUOTATION MARKzlDOUBLE PRIME QUOTATION MARK",
     "zcLOW DOUBLE PRIME QUOTATION MARKzgPOSTAL MARK FACEqHANGZHOU NUMERAL ONEdTWOcHREEfFOURdIVEeS",
     "IXcEVENfEIGHTfNINEvIDEOGRAPHIC LEVEL TONE MARKpRISING TONE MARKqDEPARTING TONE MARKtENTERING",
     " TONE MARKzfHANGUL SINGLE DOT TONE MARKuDOUBLE DOT TONE MARKzcWAVY DASHjVERTICAL KANA REPEAT",
     " MARKeWITH VOICED SOUND MARKwMARK UPPER HALFpWITH VOICED SOUND MARK UPPER HALFziMARK LOWER H",
     "ALFzlCIRCLED POSTAL MARKtIDEOGRAPHIC TELEGRAPH LINE FEED SEPARATOR SYMBOLzxHANGZHOU NUMERAL ",
     "TENcWENTYfHIRTYxVERTICAL IDEOGRAPHIC ITERATION MARKzkMASU MARKjPART ALTERNATION MARKvIDEOGRA",
     "PHIC VARIATION INDICATORtHALF FILL SPACE"]⟩,
  ⟨0x3041, ["HIRAGANA LETTER SMALL AhAbSMALL IhIbSMALL UhUbSMALL EhEbSMALL OhObKAcGAcKIcGIcKUcGUcK",
     "EcGEcKOcGOcSAcZAcSIcZIcSUcZUcSEcZEcSOcZOcTAcDAcTIcDIcSMALL TUiTUcDUcTEcDEcTOcDOcNAbIbUbEbOcH",
     "AcBAcPAcHIcBIcPIcHUcBUcPUcHEcBEcPEcHOcBOcPOcMAbIbUbEbOcSMALL YAiYAcSMALL YUiYUcSMALL YOiYOcR",
     "AbIbUbEbOcSMALL WAiWAbIbEbOcNbVUcSMALL KAbE"]⟩,
  ⟨0x3099, ["COMBINING KATAKANA-HIRAGANA VOICED SOUND MARKrSEMI-VOICED SOUND MARKzzKATAKANA-HIRAGA",
     "NA VOICED SOUND MARKrSEMI-VOICED SOUND MARKzpHIRAGANA ITERATION MARKoVOICED ITERATION MARKvD",
     "IGRAPH YORIvKATAKANA-HIRAGANA DOUBLE HYPHENx LETTER SMALL AhAbSMALL IhIbSMALL UhUbSMALL EhEb",
     "SMALL OhObKAcGAcKIcGIcKUcGUcKEcGEcKOcGOcSAcZAcSIcZIcSUcZUcSEcZEcSOcZOcTAcDAcTIcDIcSMALL TUiT",
     "UcDUcTEcDEcTOcDOcNAbIbUbEbOcHAcBAcPAcHIcBIcPIcHUcBUcPUcHEcBEcPEcHOcBOcPOcMAbIbUbEbOcSMALL YA",
     "iYAcSMALL YUiYUcSMALL YOiYOcRAbIbUbEbOcSMALL WAiWAbIbEbOcNbVUcSMALL KAbEiVAbIbEbOjMIDDLE DOT",
     "l-HIRAGANA PROLONGED SOUND MARKzf ITERATION MARKoVOICED ITERATION MARKvDIGRAPH KOTO"]⟩,
  ⟨0x3105, ["BOPOMOFO LETTER BbPbMbFbDbTbNbLbGbKbHbJbQbXbZHcCHcSHcRbZbCbSbAbObEaHcAIcEIcAUcOUcANcE",
     "NcANGdENGcRcIbUbIUcVbNGcGNcIHcO WITH DOT ABOVEqNN"]⟩,
  ⟨0x3131, ["HANGUL LETTER KIYEOKgSSANGKIYEOKlKIYEOK-SIOSlNIEUNa-CIEUCfHIEUHlTIKEUTgSSANGTIKEUTlRI",
     "EULa-KIYEOKgMIEUMfPIEUPfSIOSeTHIEUTHhPHIEUPHhHIEUHlMIEUMfPIEUPfSSANGPIEUPkPIEUP-SIOSkSIOSdSA",
     "NGSIOSjIEUNGfCIEUCfSSANGCIEUCkCHIEUCHhKHIEUKHhTHIEUTHhPHIEUPHhHIEUHfAaEcYAaEdEOcEbYEOcEcObWA",
     "aEdOEcYOcUbWEOcEbIcYUcEUcYIcIiFILLERgLETTER SSANGNIEUNkNIEUN-TIKEUTgSIOSePANSIOSnRIEUL-KIYEO",
     "K-SIOSlTIKEUTgPIEUP-SIOSjANSIOShYEORINHIEUHrMIEUM-PIEUPfSIOSePANSIOSnKAPYEOUNMIEUMnPIEUP-KIY",
     "EOKgTIKEUTgSIOS-KIYEOKgTIKEUTlCIEUCfTHIEUTHnKAPYEOUNPIEUPfSSANGPIEUPsSIOS-KIYEOKgNIEUNfTIKEU",
     "TgPIEUPfCIEUCkPANSIOShSSANGIEUNGkYESIEUNGa-SIOSePANSIOSqKAPYEOUNPHIEUPHpSSANGHIEUHkYEORINHIE",
     "UHkO-YAaEdIdU-YEOcEcIeARAEAaE"]⟩,
  ⟨0x3190, ["IDEOGRAPHIC ANNOTATION LINKING MARKmREVERSE MARKmONE MARKiTWO MARKhHREE MARKkFOUR MAR",
     "KjTOP MARKiMIDDLE MARKlBOTTOM MARKlFIRST MARKkSECOND MARKlTHIRD MARKkFOURTH MARKlHEAVEN MARK",
     "lEARTH MARKkMAN MARKzgBOPOMOFO LETTER BUcZIcJIcGUcEEbNNdOObNNdIRcANNdINNdUNNdIMcNGGdAINNdUNN",
     "dMcOMbNGdINNNlFINAL LETTER PbTbKbHoLETTER GHcLHcZYjFINAL LETTER GoLETTER GWcKWcOEcAHsCJK STR",
     "OKE TbWGcXGcBXGdSWcHZZbGcPbZWGeSZWGeHZTbZPdPWGdZWbZZeNbHbSbPbSPcDbHZbGcSZbWZcTbGcPDbZcTNcSZZ",
     "cWGdHXWGdZZZGfPGcQ"]⟩,
  ⟨0x31F0, ["KATAKANA LETTER SMALL KUcSIbUcTOcNUcHAbIbUbEbOcMUcRAbIbUbEbOyPARENTHESIZED HANGUL KIY",
     "EOKgNIEUNfTIKEUTgRIEULfMIEUMfPIEUPfSIOSeIEUNGfCIEUCeHIEUCHhKHIEUKHhTHIEUTHhPHIEUPHhHIEUHfKIY",
     "EOK AiNIEUN AhTIKEUT AiRIEUL AhMIEUM AhPIEUP AhSIOS AgIEUNG AhCIEUC AgHIEUCH AjKHIEUKH AjTHI",
     "EUTH AjPHIEUPH AjHIEUH AhCIEUC UoKOREAN CHARACTER OJEONe HU"]⟩,
  ⟨0x3220, ["PARENTHESIZED IDEOGRAPH ONEdTWOcHREEfFOURdIVEeSIXcEVENfEIGHTfNINEeTENdMOONeFIREeWATER",
     "eOODeMETALfEARTHfSUNcTOCKfHAVEeSOCIETYhNAMEeSPECIALhFINANCIALjCONGRATULATIONoLABORfREPRESENT",
     "jCALLeSTUDYeUPERVISEjENTERPRISEkRESOURCEiALLIANCEiFESTIVALiRESTeSELFeREACHzeCIRCLED IDEOGRAP",
     "H QUESTIONiKINDERGARTENmSCHOOLgKOTOoNUMBER TEN ON BLACK SQUAREsWENTY ON BLACK SQUAREvHIRTY O",
     "N BLACK SQUAREwFORTY ON BLACK SQUAREuIFTY ON BLACK SQUAREvSIXTY ON BLACK SQUAREuEVENTY ON BL",
     "ACK SQUARExEIGHTY ON BLACK SQUAREzmPARTNERSHIP SIGNqCIRCLED NUMBER TWENTY ONEdTWOcHREEfFOURd",
     "IVEeSIXcEVENfEIGHTfNINEkHIRTYa ONEdTWOcHREEfFOURdIVEsHANGUL KIYEOKgNIEUNfTIKEUTgRIEULfMIEUMf",
     "PIEUPfSIOSeIEUNGfCIEUCeHIEUCHhKHIEUKHhTHIEUTHhPHIEUPHhHIEUHfKIYEOK AiNIEUN AhTIKEUT AiRIEUL ",
     "AhMIEUM AhPIEUP AhSIOS AgIEUNG AhCIEUC AgHIEUCH AjKHIEUKH AjTHIEUTH AjPHIEUPH AjHIEUH AoKORE",
     "AN CHARACTER CHAMKOgJUEUIwHANGUL IEUNG UwKOREAN STANDARD SYMBOLwCIRCLED IDEOGRAPH ONEdTWOcHR",
     "EEfFOURdIVEeSIXcEVENfEIGHTfNINEeTENdMOONeFIREeWATEReOODeMETALfEARTHfSUNcTOCKfHAVEeSOCIETYhNA",
     "MEeSPECIALhFINANCIALjCONGRATULATIONoLABORfSECRETgMALEeFEMALEgSUITABLEiEXCELLENTjPRINTfATTENT",
     "IONjITEMeRESTeCOPYcRRECThHIGHeCENTREgLOWcEFTeRIGHTfMEDICINEiRELIGIONiSTUDYeUPERVISEjENTERPRI",
     "SEkRESOURCEiALLIANCEiNIGHTpNUMBER THIRTY SIXcEVENfEIGHTfNINElFORTYa ONEdTWOcHREEfFOURdIVEeSI",
     "XcEVENfEIGHTfNINEjIFTYuIDEOGRAPHIC TELEGRAPH SYMBOL FOR JANUARYhFEBRUARYiMARCHfAPRILfMAYdJUN",
     "EcLYeAUGUSTgSEPTEMBERjOCTOBERhNOVEMBERiDECEMBERzqSQUARE HGcERGcVjLIMITED LIABILITY SIGNwCIRC",
     "LED KATAKANA AbIbUbEbObKAbIbUbEbOcSAbIbUbEbOcTAbIbUbEbOcNAbIbUbEbOcHAbIbUbEbOcMAbIbUbEbOcYAb",
     "UbOcRAbIbUbEbOcWAbIbEbOtSQUARE ERA NAME REIWAoAPAATOfRUHUAfNPEAeARUeININGUeTIeUONdESUKUUDOhE",
     "KAAfONSUdOMUeKAIRIdRATTOeORIIhGARONdNMAeIGAcNIIfKYURIIgGIRUDAAhKIROaGURAMUgMEETORUhWATTOjGUR",
     "AMUaTONjKURUZEIROgOONEgEESUeORUNAeOPOfSAIKURUfNTIIMUhIRINGUgENTIbOfDAASUeESIdORUeTONdNANOdOT",
     "TOfHAITUfPAASENTOfTUfBAARERUhPIASUTORUhKURUdOeBIRUeHUARADDOgIITOgBUSSYERUiHURANeEKUTAARUjPES",
     "OcNIHIgHERUTUgPENSUdEZIfBEETAfPOINTOgBORUTOgHONdPONDOfHOORUcNeMAIKUROeRUdHHAdRUKUeNSYONgIKUR",
     "ONfRIaBAARUiEGAaTONfETORUhYAADOcRUeUANeRITTORUfRAdUPIIdUBURUgEMUcNTOGENiWATTOmIDEOGRAPHIC TE",
     "LEGRAPH SYMBOL FOR HOUR ZEROeONEdTWOcHREEfFOURdIVEeSIXcEVENfEIGHTfNINEeTENdELEVENgTWELVEfHIR",
     "TEENiFOURTEENhIFTEENhSIXTEENgEVENTEENjEIGHTEENiNINETEENiTWENTYa-ONEdTWOcHREEfFOURzySQUARE HP",
     "AdDAcAUcBARdOVcPCcDMa SQUAREDhCUBEDiIUcERA NAME HEISEIgSYOUWAgTAISYOUhMEIZIoCORPORATIONlPA A",
     "MPShNAcMU AdAcKAbBcMBcGBcCALdKCALePFcNFcMU FbGdGcKGcHZcKHZdMHZdGHZdTHZdMU LdLcDLcKLcFMcNMcMU",
     " MdMcCMcKMcMM SQUAREDkCM SQUAREDkM SQUAREDjKM SQUAREDkMM CUBEDiCM CUBEDiM CUBEDhKM CUBEDiM O",
     "VER Sa SQUAREDqPAcKPAdMPAdGPAdRADa OVER Sa SQUAREDsPScNScMU SdScPVcNVcMU VdVcKVcMV MEGAhPWcN",
     "WcMU WdWcKWcMW MEGAhK OHMfM OHMfAMcBQcCCbDb OVER KGiOcDBcGYcHAbPcINcKKbM CAPITALjTcLMbNbOGcX",
     "cMB SMALLhILcOLdPHbMbPMcRcSRbVcWBcV OVER MiA OVER MpIDEOGRAPHIC TELEGRAPH SYMBOL FOR DAY ONE",
     "dTWOcHREEfFOURdIVEeSIXcEVENfEIGHTfNINEeTENdELEVENgTWELVEfHIRTEENiFOURTEENhIFTEENhSIXTEENgEVE",
     "NTEENjEIGHTEENiNINETEENiTWENTYa-ONEdTWOcHREEfFOURdIVEeSIXcEVENfEIGHTfNINEkHIRTYa-ONEzwSQUARE",
     " GAL"]⟩,
  ⟨0x4DC0, ["HEXAGRAM FOR THE CREATIVE HEAVENpRECEPTIVE EARTHtDIFFICULTY AT THE BEGINNINGzcYOUTHFU",
     "L FOLLYoWAITINGhCONFLICTiTHE ARMYiHOLDING TOGETHERqSMALL TAMINGmTREADINGiPEACEfSTANDSTILLkFE",
     "LLOWSHIPkGREAT POSSESSIONqMODESTYhENTHUSIASMkFOLLOWINGjWORK ON THE DECAYEDtAPPROACHiCONTEMPL",
     "ATIONnBITING THROUGHoGRACEfSPLITTING APARTpRETURNgINNOCENCEjGREAT TAMINGmMOUTH CORNERSnGREAT",
     " PREPONDERANCEtTHE ABYSMAL WATERnCLINGING FIRErINFLUENCEjDURATIONiRETREAThGREAT POWERlPROGRE",
     "SSiDARKENING OF THE LIGHTwTHE FAMILYkOPPOSITIONjBSTRUCTIONlDELIVERANCEjCREASEiINCREASEiBREAK",
     "THROUGHmCOMING TO MEEToGATHERING TOGETHERsPUSHING UPWARDoOPPRESSIONkTHE WELLiREVOLUTIONkTHE ",
     "CAULDRONiAROUSING THUNDERqKEEPING STILL MOUNTAINzbDEVELOPMENTlTHE MARRYING MAIDENtABUNDANCEj",
     "THE WANDERERiGENTLE WINDlJOYOUS LAKEpDISPERSIONkLIMITATIONkINNER TRUTHlSMALL PREPONDERANCEtA",
     "FTER COMPLETIONqBEFORE COMPLETION"]⟩,
  ⟨0xA000, ["YI SYLLABLE ITbXcIaPbETbXcEaPdATbXcAaPcUOXcOaPdOTbXcOaPcEXcEbWUcBITbXcIaPbETbXcEaPdAT",
     "bXcAaPcUOXcOaPdOTbXcOaPcEXcEaPcUTbXcUaPbRXcRcYTbXcYaPbRXcRdPITbXcIaPbEXcEaPdATbXcAaPcUOXcOaP",
     "dOTbXcOaPcUTbXcUaPbRXcRcYTbXcYaPbRXcRdBBITbXcIaPbETbXcEaPdATbXcAaPcUOXcOaPdOTbXcOaPcEXcEaPcU",
     "TbXcUaPbRXcRcYTbXcYaPeNBITbXcIaPbEXcEaPdATbXcAaPcOTbXcOaPcUTbXcUaPbRXcRcYTbXcYaPbRXcReHMITbX",
     "cIaPbEXcEaPdATbXcAaPcUOXcOaPdOTbXcOaPcUTbXcUaPbRXcRcYXcYaPbRXcReMITbXcIaPbEXcEaPdATbXcAaPcUO",
     "TbXcOaPdOTbXcOaPcEXcEbUTbXcUaPbRXcRcYTbXcYaPdFITbXcIaPcATbXcAaPcOXcOaPcUTbXcUaPbRXcRcYTbXcYa",
     "PdVITbXcIaPbETbXcEaPdATbXcAaPcOTbXcOaPcEXbPcUTbXcUaPbRXcRcYTbXcYaPbRXcRdDITbXcIaPbEXcEaPdATb",
     "XcAaPcUOXcOcOTbXcOaPcEXcEaPcUTbXcUaPbRXcRdTITbXcIaPbEXcEaPdATbXcAaPcUOTbXcOaPdOTbXcOaPcEXcEa",
     "PcUTbXcUaPbRXcRdDDITbXcIaPbEXcEaPdATbXcAaPcUOXcOaPdOTbXcOaPcEXcEaPcUTbXcUaPbRXcReNDITbXcIaPb",
     "EXcEcATbXcAaPcOTbXcOaPcEXcEaPcUTbXcUaPbRXcReHNITbXcIaPbETbXcEaPdATbXcAaPcUOXcOcOTbXbPcEXcEaP",
     "cUTeNITbXcIaPbEXcEaPdAXcAaPcUOXcOaPdOTbXcOaPcEXcEaPcUTbXcUaPbRXcRdHLITbXcIaPbEXcEaPdATbXcAaP",
     "cUOXcOaPdOXcOaPcEXcEaPcUTbXcUaPbRXcRcYTbXcYaPbRXcReLITbXcIaPbETbXcEaPdATbXcAaPcUOTbXcOaPdOTb",
     "XcOaPcEXcEaPcUTbXcUaPbRXcRcYTbXcYaPbRXcRdGITbXcIaPbETbXcEaPdATbXcAaPcUOTbXcOaPdOTbXcOaPcETbX",
     "cEaPcUTbXcUaPbRXcRdKITbXcIaPbEXcEaPdATbXcAaPcUOXcOaPdOTbXcOaPcETbXcEaPcUTbXcUaPbRXcRdGGITbXc",
     "IaEXcEaPdATbXcAaPcUOTbXcOaPdOTbXcOaPcETbXcEaPcUTbXcUaPbRXcReMGIEXcEcATbXcAaPcUOXcOaPdOTbXcOa",
     "PcEXcEaPcUTbXcUaPbRXcReHXITbXcIaPbETbXcEaPdATbXcAaPcUOTbXcOaPdOTbXcOaPcEXcEaPeNGIEXcEaPdATbX",
     "cAaPcUOTbXcOcOTbXcOaPcEXcEaPeHITbEXcEcATbXcAaPcUOTbXcOaPdOTbXcOaPcEXcEaPdWATbXcAaPcUOXcOaPdO",
     "XcOaPcEXcEaPdZITbXcIaPbEXcEaPdATbXcAaPcUOXcOaPdOTbXcOaPcEXcEaPcUTbXcUaPbRXcRcYTbXcYaPbRXcRdC",
     "ITbXcIaPbETbXcEaPdATbXcAaPcUOXcOaPdOTbXcOaPcEXcEaPcUTbXcUaPbRXcRcYTbXcYaPbRXcRdZZITbXcIaPbET",
     "bXcEaPdATbXcAaPcOXcOaPcEXcEaPcUXcUaPbRXcRcYTbXcYaPbRXcReNZITbXcIaPbEXcEaPdATbXcAaPcUOXcOcOXb",
     "PcEXcEbUXcUaPbRXcRcYTbXcYaPbRXcReSITbXcIaPbEXcEaPdATbXcAaPcUOXcOaPdOTbXcOaPcEXcEaPcUTbXcUaPb",
     "RXcRcYTbXcYaPbRXcRcSITbXcIaPbEXcEaPdATbXcAaPcOTbXcOaPcEXcEaPcUTbXcUaPcYTbXcYaPbRXcReZHATbXcA",
     "aPcUOXcOaPdOTbXcOaPcETbXcEaPcUTbXcUaPbRXcRcYTbXcYaPbRXcReCHATbXcAaPcUOTbXcOaPdOTbXcOaPcETbXc",
     "EaPcUXcUaPbRXcRcYTbXcYaPbRXcReRRAXcAbUOXcOcOTbXcOaPcETbXcEaPcUTbXcUaPbRXcRcYTbXcYaPbRXcReNRA",
     "TbXcAaPcOXcOaPcETbXcEaPcUTbXcUaPbRXcRcYTbXcYaPbRXcReSHATbXcAaPcUOXcOaPdOTbXcOaPcETbXcEaPcUTb",
     "XcUaPbRXcRcYTbXcYaPbRXcReRATbXcAaPcUOXcOaPdOTbXcOaPcEXcEaPcUTbXcUaPbRXcRcYTbXcYaPbRXcRdJITbX",
     "cIaPbETbXcEaPdUOTbXcOaPdOTbXcOaPcUTbXcUaPbRXcRcYTbXcYaPbRXcRdQITbXcIaPbETbXcEaPdUOTbXcOaPdOT",
     "bXcOaPcUTbXcUaPbRXcRcYTbXcYaPbRXcRdJJITbXcIaPbETbXcEaPdUOXcOaPdOTbXcOaPcUTbXcUaPbRXcRcYTbXcY",
     "aPeNJITbXcIaPbETbXcEaPdUOXcOcOTbXcOaPcUXcUaPbRXcRcYTbXcYaPbRXcRdYITbXcIaPbETbXcEaPdUOXcOaPdO",
     "TbXcOaPcUTbXcUaPeXITbXcIaPbETbXcEaPdUOXcOcOTbXcOaPcYTbXcYaPbRXcRdYITbXcIaPbETbXcEaPdUOTbXcOa",
     "PdOTbXcOaPcUTbXcUaPbRXcRcYTbXcYaPbRXcR"]⟩,
  ⟨0xA490, ["YI RADICAL QOTdLIcKITdNYIPeCYPdSSIdGGOPdEPdMIcHXITeLYRdBBUTeMOPdYOcPUTdHXUOeTATdGAcZU",
     "PdCYTdDDUReBURdGGUOeNYOPeTUcOPcJJUTeZOTdPYTdHMOdYITdVURdSHYdVEPdZAcJOcNZUPeJJYdGOTdJJIEeWOcD",
     "UcSHUReLIEdCYbUOPdIPdHXOPeSHATeZURdSHOPeCHEdZZIETfNBIEeKE"]⟩,
  ⟨0xA4D0, ["LISU LETTER BAcPAbHAdDAcTAbHAdGAcKAbHAdJAcCAbHAdDZAdTSAbHAeMAcNAcLAcSAcZHAcAcNGAdHAcX",
     "AcHHAdFAcWAcSHAdYAcGHAdAaEcEaUcIbObUaEbHcOEcTONE MYA TIgNA POfMYA CYAdBOcNAcJEUtPUNCTUATION ",
     "COMMAfFULL STOPzbVAI SYLLABLE EEaNdHEEdWEEaNePEEdBHEEdEEdMBEEeKPEEeMGBEEfGBEEeFEEdVEEdTEEcHE",
     "EeDHEEcHEEfLEEdREEdDEEdNDEEeSEEcHEEeZEEcHEEeCEEdJEEdNJEEeYEEdKEEdNGGEEfGEEdMEEdNEEcYEEeIaNcH",
     "IaNdWIaNdPIcBHIcIcMBIdKPIdMGBIeGBIdFIcVIcTIbHIdDHIbHIeLIcRIcDIcNDIdSIbHIdZIbHIdCIcJIcNJIdYIc",
     "KIcNGGIeGIcMIcNIbYIdAaNcNGANeHAaNdWAaNdPAcBHAcAcMBAdKPAaNeMGBAeGBAdFAcVAcTAbHAdDHAbHAeLAcRAc",
     "DAcNDAdSAbHAdZAbHAdCAcJAcNJAdYAcKAaNdNGGAeGAcMAcNAbYAdOOaNdHOOdWOOaNePOOdBHOOdOOdMBOOeKPOOeM",
     "GBOOfGBOOeFOOdVOOdTOOcHOOeDHOOcHOOfLOOdROOdDOOdNDOOeSOOcHOOeZOOcHOOeCOOdJOOdNJOOeYOOdKOOdNGG",
     "OOfGOOdMOOdNOOcYOOeUaNcHUaNdWUaNdPUcBHUcUcMBUdKPUdMGBUeGBUdFUcVUcTUbHUdDHUbHUeLUcRUcDUcNDUdS",
     "UbHUdZUbHUdCUcJUcNJUdYUcKUcNGGUeGUcMUcNUbYUdOaNcNGONeHOaNdWOaNdPOcBHOcOcMBOdKPOdMGBOeGBOaNeF",
     "OcVOcTObHOdDHObHOeLOcROcDOcNDOdSObHOdZObHOdCOcJOcNJOdYOcKOcNGGOeGOcMOcNObYOdEaNcNGENeHEaNdWE",
     "aNdPEcBHEcEcMBEdKPEaNeMGBEeGBEaNeFEcVEcTEbHEdDHEbHEeLEcREcDEcNDEdSEbHEdZEbHEdCEcJEcNJEdYEcKE",
     "cNGGEaNfGEaNdMEcNEbYEcGcLENGTHENERtCOMMAfFULL STOPjQUESTION MARKnSYLLABLE NDOLE FAcKAcSOOqMB",
     "OL FEENGfKEENGfTINGeNIIdBANGeFAAdTAAdDANGdOONGfKUNGeTONGeDO-OeJONGlDIGIT ZEROeONEdTWOcHREEfF",
     "OURdIVEeSIXcEVENfEIGHTfNINEkSYLLABLE NDOLE MAcDO"]⟩,
  ⟨0xA640, ["CYRILLIC CAPITAL LETTER ZEMLYAvSMALL LETTER ZEMLYAtCAPITAL LETTER DZELOuSMALL LETTER ",
     "DZELOsCAPITAL LETTER REVERSED DZEzcSMALL LETTER REVERSED DZEzCAPITAL LETTER IOTAtSMALL LETTE",
     "R IOTArCAPITAL LETTER DJERVuSMALL LETTER DJERVsCAPITAL LETTER MONOGRAPH UKzcSMALL LETTER MON",
     "OGRAPH UKzCAPITAL LETTER BROAD OMEGAzbSMALL LETTER BROAD OMEGAyCAPITAL LETTER NEUTRAL YERzbS",
     "MALL LETTER NEUTRAL YERyCAPITAL LETTER YERU WITH BACK YERziSMALL LETTER YERU WITH BACK YERzg",
     "CAPITAL LETTER IOTIFIED YATzcSMALL LETTER IOTIFIED YATzCAPITAL LETTER REVERSED YUzbSMALL LET",
     "TER REVERSED YUyCAPITAL LETTER IOTIFIED AzSMALL LETTER IOTIFIED AxCAPITAL LETTER CLOSED LITT",
     "LE YUSzhSMALL LETTER CLOSED LITTLE YUSzfCAPITAL LETTER BLENDED YUSzbSMALL LETTER BLENDED YUS",
     "yCAPITAL LETTER IOTIFIED CLOSED LITTLE YUSzqSMALL LETTER IOTIFIED CLOSED LITTLE YUSzoCAPITAL",
     " LETTER YNrSMALL LETTER YNpCAPITAL LETTER REVERSED TSEzcSMALL LETTER REVERSED TSEzCAPITAL LE",
     "TTER SOFT DEwSMALL LETTER SOFT DEuCAPITAL LETTER SOFT ELwSMALL LETTER SOFT ELuCAPITAL LETTER",
     " SOFT EMwSMALL LETTER SOFT EMuCAPITAL LETTER MONOCULAR OzbSMALL LETTER MONOCULAR OyCAPITAL L",
     "ETTER BINOCULAR OzbSMALL LETTER BINOCULAR OyCAPITAL LETTER DOUBLE MONOCULAR OziSMALL LETTER ",
     "DOUBLE MONOCULAR OzgLETTER MULTIOCULAR OzdOMBINING CYRILLIC VZMETfTEN MILLIONS SIGNrHUNDRED ",
     "MILLIONS SIGNvTHOUSAND MILLIONS SIGNzqSLAVONIC ASTERISKrCOMBINING CYRILLIC LETTER UKRAINIAN ",
     "IEmIbYIcUbHARD SIGNjYERUeSOFT SIGNjOMEGAmKAVYKAgPAYEROKzYRILLIC KAVYKAgPAYEROKhCAPITAL LETTE",
     "R DWEsSMALL LETTER DWEqCAPITAL LETTER DZWEtSMALL LETTER DZWErCAPITAL LETTER ZHWEtSMALL LETTE",
     "R ZHWErCAPITAL LETTER CCHEtSMALL LETTER CCHErCAPITAL LETTER DZZEtSMALL LETTER DZZErCAPITAL L",
     "ETTER TE WITH MIDDLE HOOKzjSMALL LETTER TE WITH MIDDLE HOOKzhCAPITAL LETTER TWEsSMALL LETTER",
     " TWEqCAPITAL LETTER TSWEtSMALL LETTER TSWErCAPITAL LETTER TSSEtSMALL LETTER TSSErCAPITAL LET",
     "TER TCHEtSMALL LETTER TCHErCAPITAL LETTER HWEsSMALL LETTER HWEqCAPITAL LETTER SHWEtSMALL LET",
     "TER SHWErCAPITAL LETTER DOUBLE OxSMALL LETTER DOUBLE OvCAPITAL LETTER CROSSED OySMALL LETTER",
     " CROSSED OzgMODIFIER LETTER CYRILLIC HARD SIGNjSOFT SIGNzjCOMBINING CYRILLIC LETTER EFcIOTIF",
     "IED EzlBAMUM LETTER AbKAcUbKUcEEcREEdTAEdObNYIdIbLAcPAcRIIbEEeLEEEEfMEEEEfTAAdNDAAdJAEMfMbSU",
     "UdMUcSHIIdIbHEUXeEUXeKYEEdETdNUAEdUbJUAEfYOQdSHUdYUQcAcNSHAeKEUXePEUXeNJEEdTEEePUEdWUEdPEEdF",
     "EEdRUcLUcMIcNIcREUXdAEdKENdNGKWAENfGAcAdSHOdPUAEeFUbOMdWAcNAcLIcPIcLOQdKOcMBENeRENdMENcAcTIc",
     "KIcMObBAAeTETdKPAdTENdNTUUeSAMBAfFAAMAEgKOVUUdGHOMnCOMBINING MARK KOQNDONhTUKWENTISyNJAEMLIh",
     "FULL STOPjCOLONdMMAfSEMICOLONjQUESTION MARK"]⟩,
  ⟨0xA700, ["MODIFIER LETTER CHINESE TONE YIN PINGhANG PINGiIN SHANGiANG SHANGjIN QUfANG QUgIN RUf",
     "ANG RUuEXTRA-HIGH DOTTED TONE BARzbHIGH DOTTED TONE BARuMID DOTTED TONE BARtLOW DOTTED TONE ",
     "BARtEXTRA-LOW DOTTED TONE BARtHIGH DOTTED LEFT-STEM TONE BARzlHIGH DOTTED LEFT-STEM TONE BAR",
     "zfMID DOTTED LEFT-STEM TONE BARzeLOW DOTTED LEFT-STEM TONE BARzeEXTRA-LOW DOTTED LEFT-STEM T",
     "ONE BARzeHIGH LEFT-STEM TONE BARzeHIGH LEFT-STEM TONE BARxMID LEFT-STEM TONE BARwLOW LEFT-ST",
     "EM TONE BARwEXTRA-LOW LEFT-STEM TONE BARzdDOT VERTICAL BARmSLASHfHORIZONTAL BARsLOWER RIGHT ",
     "CORNER ANGLEyRAISED UP ARROWiDOWN ARROWkEXCLAMATION MARKqINVERTED EXCLAMATION MARKzhLOW INVE",
     "RTED EXCLAMATION MARKzeSTRESS AND HIGH TONEjLOW TONEzkLATIN CAPITAL LETTER EGYPTOLOGICAL ALE",
     "FziSMALL LETTER EGYPTOLOGICAL ALEFzgCAPITAL LETTER EGYPTOLOGICAL AINzhSMALL LETTER EGYPTOLOG",
     "ICAL AINzfCAPITAL LETTER HENGtSMALL LETTER HENGrCAPITAL LETTER TZrSMALL LETTER TZpCAPITAL LE",
     "TTER TRESILLOxSMALL LETTER TRESILLOvCAPITAL LETTER CUATRILLOySMALL LETTER CUATRILLOwCAPITAL ",
     "LETTER CUATRILLO WITH COMMAzkSMALL LETTER CUATRILLO WITH COMMAziLETTER SMALL CAPITAL FbSwCAP",
     "ITAL LETTER AArSMALL LETTER AApCAPITAL LETTER AOrSMALL LETTER AOpCAPITAL LETTER AUrSMALL LET",
     "TER AUpCAPITAL LETTER AVrSMALL LETTER AVpCAPITAL LETTER AV WITH HORIZONTAL BARzmSMALL LETTER",
     " AV WITH HORIZONTAL BARzkCAPITAL LETTER AYrSMALL LETTER AYpCAPITAL LETTER REVERSED C WITH DO",
     "TzjSMALL LETTER REVERSED C WITH DOTzhCAPITAL LETTER K WITH STROKEzdSMALL LETTER K WITH STROK",
     "EzbCAPITAL LETTER K WITH DIAGONAL STROKEzmSMALL LETTER K WITH DIAGONAL STROKEzkCAPITAL LETTE",
     "R K WITH STROKE AND DIAGONAL STROKEzxSMALL LETTER K WITH STROKE AND DIAGONAL STROKEzvCAPITAL",
     " LETTER BROKEN LxSMALL LETTER BROKEN LvCAPITAL LETTER L WITH HIGH STROKEziSMALL LETTER L WIT",
     "H HIGH STROKEzgCAPITAL LETTER O WITH LONG STROKE OVERLAYzqSMALL LETTER O WITH LONG STROKE OV",
     "ERLAYzoCAPITAL LETTER O WITH LOOPzbSMALL LETTER O WITH LOOPyCAPITAL LETTER OOrSMALL LETTER O",
     "OpCAPITAL LETTER P WITH STROKE THROUGH DESCENDERzvSMALL LETTER P WITH STROKE THROUGH DESCEND",
     "ERztCAPITAL LETTER P WITH FLOURISHzfSMALL LETTER P WITH FLOURISHzdCAPITAL LETTER P WITH SQUI",
     "RREL TAILzkSMALL LETTER P WITH SQUIRREL TAILziCAPITAL LETTER Q WITH STROKE THROUGH DESCENDER",
     "zvSMALL LETTER Q WITH STROKE THROUGH DESCENDERztCAPITAL LETTER Q WITH DIAGONAL STROKEzmSMALL",
     " LETTER Q WITH DIAGONAL STROKEzkCAPITAL LETTER R ROTUNDAySMALL LETTER R ROTUNDAwCAPITAL LETT",
     "ER RUM ROTUNDAzbSMALL LETTER RUM ROTUNDAyCAPITAL LETTER V WITH DIAGONAL STROKEzmSMALL LETTER",
     " V WITH DIAGONAL STROKEzkCAPITAL LETTER VYrSMALL LETTER VYpCAPITAL LETTER VISIGOTHIC ZzcSMAL",
     "L LETTER VISIGOTHIC ZzCAPITAL LETTER THORN WITH STROKEzhSMALL LETTER THORN WITH STROKEzfCAPI",
     "TAL LETTER THORN WITH STROKE THROUGH DESCENDERzzSMALL LETTER THORN WITH STROKE THROUGH DESCE",
     "NDERzxCAPITAL LETTER VENDtSMALL LETTER VENDrCAPITAL LETTER ETrSMALL LETTER ETpCAPITAL LETTER",
     " ISrSMALL LETTER ISpCAPITAL LETTER CONsSMALL LETTER CONwMODIFIER LETTER USsLATIN SMALL LETTE",
     "R DUMdLUMdMUMdNUMdRUMqLETTER SMALL CAPITAL RUMySMALL LETTER TUMdUMpCAPITAL LETTER INSULAR Dy",
     "SMALL LETTER INSULAR DwCAPITAL LETTER INSULAR FySMALL LETTER INSULAR FwCAPITAL LETTER INSULA",
     "R GjTURNED INSULAR GzgSMALL LETTER TURNED INSULAR GzeCAPITAL LETTER TURNED LxSMALL LETTER TU",
     "RNED LvCAPITAL LETTER INSULAR RySMALL LETTER INSULAR RwCAPITAL LETTER INSULAR SySMALL LETTER",
     " INSULAR SwCAPITAL LETTER INSULAR TySMALL LETTER INSULAR TzdMODIFIER LETTER LOW CIRCUMFLEX A",
     "CCENTvCOLONfSHORT EQUALS SIGNziLATIN CAPITAL LETTER SALTILLOxSMALL LETTER SALTILLOvCAPITAL L",
     "ETTER TURNED HxSMALL LETTER L WITH RETROFLEX HOOK AND BELTzsLETTER SINOLOGICAL DOTwCAPITAL L",
     "ETTER N WITH DESCENDERzgSMALL LETTER N WITH DESCENDERzeCAPITAL LETTER C WITH BARzSMALL LETTE",
     "R C WITH BARdPALATAL HOOKtH WITH PALATAL HOOKzhCAPITAL LETTER B WITH FLOURISHzfSMALL LETTER ",
     "B WITH FLOURISHzdCAPITAL LETTER F WITH STROKEzdSMALL LETTER F WITH STROKEzbCAPITAL LETTER VO",
     "LAPUK AEzSMALL LETTER VOLAPUK AExCAPITAL LETTER VOLAPUK OEzSMALL LETTER VOLAPUK OExCAPITAL L",
     "ETTER VOLAPUK UEzSMALL LETTER VOLAPUK UExCAPITAL LETTER G WITH OBLIQUE STROKEzlSMALL LETTER ",
     "G WITH OBLIQUE STROKEzjCAPITAL LETTER K WITH OBLIQUE STROKEzlSMALL LETTER K WITH OBLIQUE STR",
     "OKEzjCAPITAL LETTER N WITH OBLIQUE STROKEzlSMALL LETTER N WITH OBLIQUE STROKEzjCAPITAL LETTE",
     "R R WITH OBLIQUE STROKEzlSMALL LETTER R WITH OBLIQUE STROKEzjCAPITAL LETTER S WITH OBLIQUE S",
     "TROKEzlSMALL LETTER S WITH OBLIQUE STROKEzjCAPITAL LETTER H WITH HOOKlREVERSED OPEN EpSCRIPT",
     " GiL WITH BELTlSMALL CAPITAL IzfLETTER SMALL CAPITAL QwCAPITAL LETTER TURNED KbTiJ WITH CROS",
     "SED-TAILtCHIdBETAtSMALL LETTER BETArCAPITAL LETTER OMEGAuSMALL LETTER OMEGAsCAPITAL LETTER U",
     " WITH STROKEzdSMALL LETTER U WITH STROKEzbCAPITAL LETTER GLOTTAL AySMALL LETTER GLOTTAL AwCA",
     "PITAL LETTER GLOTTAL IySMALL LETTER GLOTTAL IwCAPITAL LETTER GLOTTAL UySMALL LETTER GLOTTAL ",
     "UwCAPITAL LETTER OLD POLISH OzcSMALL LETTER OLD POLISH OzCAPITAL LETTER ANGLICANA WzbSMALL L",
     "ETTER ANGLICANA WyCAPITAL LETTER C WITH PALATAL HOOKtS WITH HOOKlZ WITH PALATAL HOOKtD WITH ",
     "SHORT STROKE OVERLAYzrSMALL LETTER D WITH SHORT STROKE OVERLAYzpCAPITAL LETTER S WITH SHORT ",
     "STROKE OVERLAYzrSMALL LETTER S WITH SHORT STROKE OVERLAY"]⟩,
  ⟨0xA7D0, ["LATIN CAPITAL LETTER CLOSED INSULAR GzgSMALL LETTER CLOSED INSULAR G"]⟩,
  ⟨0xA7D3, ["LATIN SMALL LETTER DOUBLE THORN"]⟩,
  ⟨0xA7D5, ["LATIN SMALL LETTER DOUBLE WYNNyCAPITAL LETTER MIDDLE SCOTS SzeSMALL LETTER MIDDLE SCO",
     "TS SzcCAPITAL LETTER SIGMOID SySMALL LETTER SIGMOID S"]⟩,
  ⟨0xA7F2, ["MODIFIER LETTER CAPITAL CbFbQzLATIN CAPITAL LETTER REVERSED HALF HzfSMALL LETTER REVE",
     "RSED HALF HzdEPIGRAPHIC LETTER SIDEWAYS IzjMODIFIER LETTER CAPITAL H WITH STROKEvSMALL LIGAT",
     "URE OEziLATIN LETTER SMALL CAPITAL TURNED MzeEPIGRAPHIC LETTER REVERSED FbPkINVERTED Mj LONG",
     "AhARCHAIC MziSYLOTI NAGRI LETTER AbIiSIGN DVISVARAnLETTER UbEbOiSIGN HASANTAmLETTER KObHOdGO",
     "bHOkSIGN ANUSVARAnLETTER CObHOdJObHOdTTObHOeDDObHOeTObHOdDObHOdNOcPObHOdBObHOdMOcROcLOcRROdS",
     "OcHOjVOWEL SIGN AbIbUbEbOOnPOETRY MARK-1b2b3b4nSIGN ALTERNATE HASANTA"]⟩,
  ⟨0xA830, ["NORTH INDIC FRACTION ONE QUARTERhHALFiTHREE QUARTERSoONE SIXTEENTHjEIGHTHkTHREE SIXTE",
     "ENTHSzQUARTER MARKmPLACEHOLDER MARKqRUPEE MARKkQUANTITY MARK"]⟩,
  ⟨0xA840, ["PHAGS-PA LETTER KAbHAdGAcNGAdCAbHAdJAcNYAdTAbHAdDAcNAcPAbHAdBAcMAcTSAbHAeDZAdWAcZHAcA",
     "cSMALL AhYAcRAcLAcSHAcAcHAcAbIbUbEbObQAcXAcFAcGGAdEEjSUBJOINED LETTER WAcYAtLETTER TTAbHAeDD",
     "AdNNAdALTERNATE YAmVOICELESS SHAiD HAjASPIRATED FAtSUBJOINED LETTER RArPERFIXED LETTER RAuLE",
     "TTER CANDRABINDUsSINGLE HEAD MARKqDOUBLE HEAD MARKqMARK SHADeDOUBLE SHAD"]⟩,
  ⟨0xA880, ["SAURASHTRA SIGN ANUSVARAiVISARGAmLETTER AaAcIaIcUaUcVOCALIC RaRcLaLkEaEcAIcOaOcAUcKAb",
     "HAdGAbHAdNGAdCAbHAdJAbHAdNYAdTTAbHAeDDAbHAeNNAdTAbHAdDAbHAdNAcPAbHAdBAbHAdMAcYAcRAcLAcVAcSHA",
     "cSAcAcHAcLLAkCONSONANT SIGN HAARUuVOWEL SIGN AAcIaIcUaUcVOCALIC RaRcLaLkEaEcAIcOaOcAUnSIGN V",
     "IRAMAgCANDRABINDU"]⟩,
  ⟨0xA8CE, ["SAURASHTRA DANDAeOUBLE DANDAlIGIT ZEROeONEdTWOcHREEfFOURdIVEeSIXcEVENfEIGHTfNINE"]⟩,
  ⟨0xA8E0, ["COMBINING DEVANAGARI DIGIT ZEROeONEdTWOcHREEfFOURdIVEeSIXcEVENfEIGHTfNINEkLETTER AbUb",
     "KAcNAcPAcRAcVIjSIGN AVAGRAHAzjDEVANAGARI SIGN SPACING CANDRABINDUtCANDRABINDU VIRAMAsDOUBLE ",
     "CANDRABINDU VIRAMAzCANDRABINDU TWOcHREEfAVAGRAHAuPUSHPIKAnGAP FILLERkCARETfHEADSTROKEkSIGN S",
     "IDDHAMmJAIN OMhLETTER AYjVOWEL SIGN AYyKAYAH LI DIGIT ZEROeONEdTWOcHREEfFOURdIVEeSIXcEVENfEI",
     "GHTfNINEkLETTER KAbHAdGAcNGAdSAbHAdZAcNYAdTAcHTAdNAcPAbHAdMAcDAcBAcRAcYAcLAcWAcTHAdHAcVAcCAc",
     "AbOEcIbOOjVOWEL UEcEbUbEEcOhTONE PLOPHUgCALYAa PLOPHUrSIGN CWIdSHYAsREJANG LETTER KAcGAcNGAd",
     "TAcDAcNAcPAcBAcMAcCAcJAcNYAdSAcRAcLAcYAcWAcHAcMBAdNGGAdDAcYJAeAiVOWEL SIGN IbUbEbAIcObAUcEUb",
     "AnCONSONANT SIGN NGcNbRbHqVIRAMA"]⟩,
  ⟨0xA95F, ["REJANG SECTION MARKtHANGUL CHOSEONG TIKEUT-MIEUMfPIEUPfSIOSeCIEUCmRIEUL-KIYEOKgSSANGK",
     "IYEOKlTIKEUTgSSANGTIKEUTlMIEUMfPIEUPfSSANGPIEUPkKAPYEOUNPIEUPnSIOSeCIEUCfKHIEUKHnMIEUM-KIYEO",
     "KgTIKEUTgSIOSkPIEUP-SIOS-THIEUTHmKHIEUKHhHIEUHlSSANGSIOS-PIEUPpIEUNG-RIEULfHIEUHlSSANGCIEUC-",
     "HIEUHlTHIEUTHmPHIEUPH-HIEUHnHIEUH-SIOSkSSANGYEORINHIEUH"]⟩,
  ⟨0xA980, ["JAVANESE SIGN PANYANGGAjCECAKfLAYARfWIGNYANmLETTER AbI KAWIgIaIcUbPA CEREKiNGA LELETa",
     " RASWADIrEbAIcObKAa SASAKfMURDAiGAa MURDAiNGAdCAa MURDAiJAcNYA MURDAjJA MAHAPRANAmNYAdTTAa M",
     "AHAPRANAnDDAa MAHAPRANAnNA MURDAiTAa MURDAiDAa MAHAPRANAmNAcPAa MURDAiBAa MURDAiMAcYAcRAa AG",
     "UNGiLAcWAcSA MURDAeAHAPRANAlAcHAjSIGN CECAK TELUpVOWEL SIGN TARUNGfOLONGgWULUa MELIKkSUKUa M",
     "ENDUTlTALINGgDIRGA MUREkPEPETqCONSONANT SIGN KERETfPENGKALhCAKRAuPANGKONhLEFT RERENGGANoRIGH",
     "T RERENGGANpPADA ANDAPfMADYAfLUHURfWINDUfPANGKAThLINGSAfUNGSIgADEGa ADEGjPISELEHmTURNED PADA",
     " PISELEH"]⟩,
  ⟨0xA9CF, ["JAVANESE PANGRANGKEPlDIGIT ZEROeONEdTWOcHREEfFOURdIVEeSIXcEVENfEIGHTfNINE"]⟩,
  ⟨0xA9DE, ["JAVANESE PADA TIRTA TUMETESnISEN-ISENxMYANMAR LETTER SHAN GHAdCHAdJHAdNNAdBHApSIGN SH",
     "AN SAWnMODIFIER LETTER SHAN REDUPLICATIONzjLETTER TAI LAING NYAdFAcGAbHAdJAbHAdDDAbHAeNNAuTA",
     "I LAING DIGIT ZEROeONEdTWOcHREEfFOURdIVEeSIXcEVENfEIGHTfNINEuLETTER TAI LAING LLAdDAbHAdBAbH",
     "A"]⟩,
  ⟨0xAA00, ["CHAM LETTER AbIbUbEbAIcObKAbHAdGAbHAdNGUEcAdCHAbHAeJAbHAdNHUEcAbJAeTAbHAdDAbHAdNUEcAc",
     "DDAdPAbPAcHAdBAbHAdMUEcAcBBAdYAcRAcLAcVAcSSAcAcHAjVOWEL SIGN AAcIaIcEIcUbOEcObAIbUcUEnCONSON",
     "ANT SIGN YAcRAcLAcWA"]⟩,
  ⟨0xAA40, ["CHAM LETTER FINAL KbGbNGpCONSONANT SIGN FINAL NGxLETTER FINAL CHcTbNbPbYbRbLbSSpCONSO",
     "NANT SIGN FINAL MbH"]⟩,
  ⟨0xAA50, ["CHAM DIGIT ZEROeONEdTWOcHREEfFOURdIVEeSIXcEVENfEIGHTfNINE"]⟩,
  ⟨0xAA5C, ["CHAM PUNCTUATION SPIRALgDANDAeOUBLE DANDAmTRIPLE DANDAzeMYANMAR LETTER KHAMTI GAcCAbH",
     "AdJAbHAdNYAdTTAbHAeDDAbHAdHAdNAcSAcHAbHAdFAqMODIFIER LETTER KHAMTI REDUPLICATIONzlLETTER KHA",
     "MTI XAcZAcRApOGOGRAM KHAMTI OAYdQNcHMsSYMBOL AITON EXCLAMATIONlONEdTWOqLETTER AITON RApSIGN ",
     "PAO KAREN TONEoTAI LAING TONE-2b5vLETTER SHWE PALAUNG CHAdSHAzgTAI VIET LETTER LOW KOgHIGH K",
     "OhLOW KHOhHIGH KHOiLOW KHHOiHIGH KHHOjLOW GOgHIGH GOhLOW NGOhHIGH NGOiLOW COgHIGH COhLOW CHO",
     "hHIGH CHOiLOW SOgHIGH SOhLOW NYOhHIGH NYOiLOW DOgHIGH DOhLOW TOgHIGH TOhLOW THOhHIGH THOiLOW",
     " NOgHIGH NOhLOW BOgHIGH BOhLOW POgHIGH POhLOW PHOhHIGH PHOiLOW FOgHIGH FOhLOW MOgHIGH MOhLOW",
     " YOgHIGH YOhLOW ROgHIGH ROhLOW LOgHIGH LOhLOW VOgHIGH VOhLOW HOgHIGH HOhLOW OfHIGH OnMAI KAN",
     "GiVOWEL AAcIbUEcUbEbOhMAI KHITiVOWEL IAcUEAcAcAUEcYbNbMiTONE MAI EKcNUENGfTHOdSONG"]⟩,
  ⟨0xAADB, ["TAI VIET SYMBOL KONdNUENGfSAMdHO HOIgKOI KOIxMEETEI MAYEK LETTER EbObCHAdNYAdTTAbHAeD",
     "DAbHAeNNAdSHAcSAkVOWEL SIGN IIcUUcAAIcUbAUoCHEIKHANiAHANG KHUDAMlNJIeSYLLABLE REPETITION MAR",
     "KyWORD REPETITION MARKuVOWEL SIGN VISARGArIRAMA"]⟩,
  ⟨0xAB01, ["ETHIOPIC SYLLABLE TTHUbIbAAcEEcEbO"]⟩,
  ⟨0xAB09, ["ETHIOPIC SYLLABLE DDHUbIbAAcEEcEbO"]⟩,
  ⟨0xAB11, ["ETHIOPIC SYLLABLE DZUbIbAAcEEcEbO"]⟩,
  ⟨0xAB20, ["ETHIOPIC SYLLABLE CCHHAbUbIbAAcEEcEbO"]⟩,
  ⟨0xAB28, ["ETHIOPIC SYLLABLE BBAbUbIbAAcEEcEbO"]⟩,
  ⟨0xAB30, ["LATIN SMALL LETTER BARRED ALPHAmA REVERSED-SCHWAqBLACKLETTER EmARRED EiE WITH FLOURIS",
     "HpLENIS FhSCRIPT G WITH CROSSED-TAILzbL WITH INVERTED LAZY SpDOUBLE MIDDLE TILDEtMIDDLE RING",
     "sM WITH CROSSED-TAILtN WITH CROSSED-TAILtENG WITH CROSSED-TAILvBLACKLETTER Oa WITH STROKEzOP",
     "EN O WITH STROKEsINVERTED OElTURNED OE WITH STROKEgHORIZONTAL STROKEy OPEN-Oa WITH STROKEzcS",
     "TIRRUP RwLETTER SMALL CAPITAL R WITH RIGHT LEGzmSMALL LETTER R WITHOUT HANDLEqDOUBLE RiR WIT",
     "H CROSSED-TAILtDOUBLE R WITH CROSSED-TAILzbSCRIPT Ra WITH RINGsBASELINE ESHmU WITH SHORT RIG",
     "HT LEGuBAR WITH SHORT RIGHT LEGzIcTURNED UIjU WITH LEFT HOOKqCHIa WITH LOW RIGHT RINGkLEFT S",
     "ERIFxX WITH LOW RIGHT RINGmNG LEFT LEGa AND LOW RIGHT RINGsWITH SERIFzgY WITH SHORT RIGHT LE",
     "GzqMODIFIER BREVE WITH INVERTED BREVEzLETTER SMALL HENGeL WITH INVERTED LAZY SpMIDDLE TILDEt",
     "U WITH LEFT HOOKznLATIN SMALL LETTER SAKHA YATjIOTIFIED EkOPEN OEhUOcINVERTED ALPHAziGREEK L",
     "ETTER SMALL CAPITAL OMEGAzhLATIN SMALL LETTER DZ DIGRAPH WITH RETROFLEX HOOKzfTS DIGRAPH WIT",
     "H RETROFLEX HOOKzeURNED R WITH MIDDLE TILDEzuMODIFIER LETTER SMALL TURNED WoLEFT TACKjRIGHT ",
     "TACK"]⟩,
  ⟨0xAB70, ["CHEROKEE SMALL LETTER AbEbIbObUbVbGAcKAcGEbIbObUbVcHAbEbIbObUbVcLAbEbIbObUbVcMAbEbIbO",
     "bUcNAcHNAdNAHcEbIbObUbVcQUAbEbIbObUbVdSAcSaEbIbObUbVcDAcTAcDEcTEcDIcTIcDObUbVbLAdTLAbEbIbObU",
     "bVcSAbEbIbObUbVdWAbEbIbObUbVcYAyMEETEI MAYEK LETTER KOKdSAMdLAIdMITdPAcNAcCHILeTILdKHOUeNGOU",
     "eTHOUeWAIdYANGeHUKdUNcIbPHAMeATIYAfGOKdJHAMeRAIdBAcJILdDILdGHOUeDHOUeBHAMeKOK LONSUMkLAI LON",
     "SUMkMIT LONSUMkPA LONSUMjNA LONSUMjTIL LONSUMkNGOU LONSUMlI LONSUMpVOWEL SIGN ONAPeINAPeANAP",
     "eYENAPfSOUNAPgUNAPeCHEINAPhNUNGpCHEIKHEIiLUM IYEKiAPUN IYEK"]⟩,
  ⟨0xABF0, ["MEETEI MAYEK DIGIT ZEROeONEdTWOcHREEfFOURdIVEeSIXcEVENfEIGHTfNINE"]⟩,
  ⟨0xD7B0, ["HANGUL JUNGSEONG O-YEOdO-IfYO-AaEcEOfU-YEOdI-IfYU-AEcOeEU-AbEOcEbOeI-YA-OcEcEOcEcO-Id",
     "YObUcIdARAEA-AbE"]⟩,
  ⟨0xD7CB, ["HANGUL JONGSEONG NIEUN-RIEULfCHIEUCHnSSANGTIKEUTa-PIEUPrTIKEUT-PIEUPfSIOSa-KIYEOKlCIE",
     "UCeHIEUCHhTHIEUTHoRIEUL-SSANGKIYEOKlKIYEOK-HIEUHsSSANGRIEUL-KHIEUKHsRIEUL-MIEUM-HIEUHlPIEUP-",
     "TIKEUTgPHIEUPHnYESIEUNGgORINHIEUH-HIEUHxKAPYEOUNRIEULnMIEUM-NIEUNfSSANGNIEUNqSSANGMIEUMkMIEU",
     "M-PIEUP-SIOSkCIEUClPIEUP-TIKEUTgRIEUL-PHIEUPHnMIEUMlSSANGPIEUPkPIEUP-SIOS-TIKEUTlCIEUCeHIEUC",
     "HnSIOS-MIEUMfKAPYEOUNPIEUPrSANGSIOS-KIYEOKgTIKEUTpIOS-PANSIOShCIEUCeHIEUCHhTHIEUTHhHIEUHkPAN",
     "SIOS-PIEUPfKAPYEOUNPIEUPvYESIEUNG-MIEUMfHIEUHoCIEUC-PIEUPfSSANGPIEUPqSSANGCIEUCkPHIEUPH-SIOS",
     "eTHIEUTH"]⟩,
  ⟨0xFB00, ["LATIN SMALL LIGATURE FFbIbLbFIbLdLONG S TiST"]⟩,
  ⟨0xFB13, ["ARMENIAN SMALL LIGATURE MEN NOWdECHdINIhVEW NOWhMEN XEH"]⟩,
  ⟨0xFB1D, ["HEBREW LETTER YOD WITH HIRIQvPOINT JUDEO-SPANISH VARIKAzbLIGATURE YIDDISH YOD YOD PAT",
     "AHzeETTER ALTERNATIVE AYINqWIDE ALEFeDALETfHEcKAFdLAMEDfFINAL MEMjRESHeTAViALTERNATIVE PLUS ",
     "SIGNvSHIN WITH SHIN DOThIN DOThDAGESH AND SHIN DOThIN DOTzdALEF WITH PATAHfQAMATSgMAPIQpBET ",
     "WITH DAGESHpGIMEL WITH DAGESHrDALET WITH DAGESHrHE WITH MAPIQnVAV WITH DAGESHpZAYIN WITH DAG",
     "ESH"]⟩,
  ⟨0xFB38, ["HEBREW LETTER TET WITH DAGESHpYOD WITH DAGESHpFINAL KAF WITH DAGESHvKAF WITH DAGESHpL",
     "AMED WITH DAGESH"]⟩,
  ⟨0xFB3E, ["HEBREW LETTER MEM WITH DAGESH"]⟩,
  ⟨0xFB40, ["HEBREW LETTER NUN WITH DAGESHpSAMEKH WITH DAGESH"]⟩,
  ⟨0xFB43, ["HEBREW LETTER FINAL PE WITH DAGESHuPE WITH DAGESH"]⟩,
  ⟨0xFB46, ["HEBREW LETTER TSADI WITH DAGESHrQOF WITH DAGESHpRESH WITH DAGESHqSHIN WITH DAGESHqTAV",
     " WITH DAGESHpVAV WITH HOLAMoBET WITH RAFEnKAF WITH RAFEnPE WITH RAFEsIGATURE ALEF LAMEDzbARA",
     "BIC LETTER ALEF WASLA ISOLATED FORMnFINAL FORMvBEEH ISOLATED FORMnFINAL FORMkINITIAL FORMmME",
     "DIAL FORMqPEH ISOLATED FORMnFINAL FORMkINITIAL FORMmMEDIAL FORMpBEHEH ISOLATED FORMnFINAL FO",
     "RMkINITIAL FORMmMEDIAL FORMrTTEHEH ISOLATED FORMnFINAL FORMkINITIAL FORMmMEDIAL FORMrEHEH IS",
     "OLATED FORMnFINAL FORMkINITIAL FORMmMEDIAL FORMqTEH ISOLATED FORMnFINAL FORMkINITIAL FORMmME",
     "DIAL FORMqVEH ISOLATED FORMnFINAL FORMkINITIAL FORMmMEDIAL FORMpPEHEH ISOLATED FORMnFINAL FO",
     "RMkINITIAL FORMmMEDIAL FORMrDYEH ISOLATED FORMnFINAL FORMkINITIAL FORMmMEDIAL FORMqNYEH ISOL",
     "ATED FORMnFINAL FORMkINITIAL FORMmMEDIAL FORMqTCHEH ISOLATED FORMnFINAL FORMkINITIAL FORMmME",
     "DIAL FORMmEH ISOLATED FORMnFINAL FORMkINITIAL FORMmMEDIAL FORMtDDAHAL ISOLATED FORMnFINAL FO",
     "RMqAHAL ISOLATED FORMnFINAL FORMpUL ISOLATED FORMnFINAL FORMnDAL ISOLATED FORMnFINAL FORMpJE",
     "H ISOLATED FORMnFINAL FORMoRREH ISOLATED FORMnFINAL FORMpKEHEH ISOLATED FORMnFINAL FORMkINIT",
     "IAL FORMmMEDIAL FORMrGAF ISOLATED FORMnFINAL FORMkINITIAL FORMmMEDIAL FORMoUEH ISOLATED FORM",
     "nFINAL FORMkINITIAL FORMmMEDIAL FORMqNGOEH ISOLATED FORMnFINAL FORMkINITIAL FORMmMEDIAL FORM",
     "qOON GHUNNA ISOLATED FORMnFINAL FORMwRNOON ISOLATED FORMnFINAL FORMkINITIAL FORMmMEDIAL FORM",
     "rHEH WITH YEH ABOVE ISOLATED FORMnFINAL FORMzGOAL ISOLATED FORMnFINAL FORMkINITIAL FORMmMEDI",
     "AL FORMqDOACHASHMEE ISOLATED FORMnFINAL FORMkINITIAL FORMmMEDIAL FORMzcYEH BARREE ISOLATED F",
     "ORMnFINAL FORMkWITH HAMZA ABOVE ISOLATED FORMnFINAL FORMzuSYMBOL DOT ABOVEfBELOWjTWO DOTS AB",
     "OVEfBELOWnHREE DOTS ABOVEfBELOWfPOINTING DOWNWARDS ABOVEfBELOWzkFOUR DOTS ABOVEfBELOWpDOUBLE",
     " VERTICAL BAR BELOWzTWO DOTS VERTICALLY ABOVEfBELOWzRINGeSMALL TAH ABOVEfBELOWpWASLA ABOVE"]⟩,
  ⟨0xFBD3, ["ARABIC LETTER NG ISOLATED FORMnFINAL FORMkINITIAL FORMmMEDIAL FORMoU ISOLATED FORMnFI",
     "NAL FORMmOE ISOLATED FORMnFINAL FORMnYU ISOLATED FORMnFINAL FORMnU WITH HAMZA ABOVE ISOLATED",
     " FORMzhVE ISOLATED FORMnFINAL FORMnKIRGHIZ OE ISOLATED FORMnFINAL FORMnYU ISOLATED FORMnFINA",
     "L FORMvE ISOLATED FORMnFINAL FORMkINITIAL FORMmMEDIAL FORMnUIGHUR KAZAKH KIRGHIZ ALEF MAKSUR",
     "A INITIAL FORMmMEDIAL FORMzzcIGATURE YEH WITH HAMZA ABOVE WITH ALEF ISOLATED FORMnFINAL FORM",
     "oE ISOLATED FORMnFINAL FORMnWAW ISOLATED FORMnFINAL FORMoU ISOLATED FORMnFINAL FORMmOE ISOLA",
     "TED FORMnFINAL FORMnYU ISOLATED FORMnFINAL FORMnE ISOLATED FORMnFINAL FORMkINITIAL FORMzpUIG",
     "HUR KIRGHIZ YEH WITH HAMZA ABOVE WITH ALEF MAKSURA ISOLATED FORMnFINAL FORMkINITIAL FORMzzyE",
     "TTER FARSI YEH ISOLATED FORMnFINAL FORMkINITIAL FORMmMEDIAL FORMzcIGATURE YEH WITH HAMZA ABO",
     "VE WITH JEEM ISOLATED FORMsHAH ISOLATED FORMrMEEM ISOLATED FORMsALEF MAKSURA ISOLATED FORMzb",
     "YEH ISOLATED FORMzsBEH WITH JEEM ISOLATED FORMsHAH ISOLATED FORMrKHAH ISOLATED FORMsMEEM ISO",
     "LATED FORMsALEF MAKSURA ISOLATED FORMzbYEH ISOLATED FORMzbTEH WITH JEEM ISOLATED FORMsHAH IS",
     "OLATED FORMrKHAH ISOLATED FORMsMEEM ISOLATED FORMsALEF MAKSURA ISOLATED FORMzbYEH ISOLATED F",
     "ORMzHEH WITH JEEM ISOLATED FORMsMEEM ISOLATED FORMsALEF MAKSURA ISOLATED FORMzbYEH ISOLATED ",
     "FORMzcJEEM WITH HAH ISOLATED FORMrMEEM ISOLATED FORMzdHAH WITH JEEM ISOLATED FORMsMEEM ISOLA",
     "TED FORMzcKHAH WITH JEEM ISOLATED FORMsHAH ISOLATED FORMrMEEM ISOLATED FORMzdSEEN WITH JEEM ",
     "ISOLATED FORMsHAH ISOLATED FORMrKHAH ISOLATED FORMsMEEM ISOLATED FORMzcAD WITH HAH ISOLATED ",
     "FORMrMEEM ISOLATED FORMzcDAD WITH JEEM ISOLATED FORMsHAH ISOLATED FORMrKHAH ISOLATED FORMsME",
     "EM ISOLATED FORMzcTAH WITH HAH ISOLATED FORMrMEEM ISOLATED FORMzcZAH WITH MEEM ISOLATED FORM",
     "zcAIN WITH JEEM ISOLATED FORMsMEEM ISOLATED FORMzcGHAIN WITH JEEM ISOLATED FORMsMEEM ISOLATE",
     "D FORMzeFEH WITH JEEM ISOLATED FORMsHAH ISOLATED FORMrKHAH ISOLATED FORMsMEEM ISOLATED FORMs",
     "ALEF MAKSURA ISOLATED FORMzbYEH ISOLATED FORMzbQAF WITH HAH ISOLATED FORMrMEEM ISOLATED FORM",
     "sALEF MAKSURA ISOLATED FORMzbYEH ISOLATED FORMzbKAF WITH ALEF ISOLATED FORMsJEEM ISOLATED FO",
     "RMsHAH ISOLATED FORMrKHAH ISOLATED FORMsLAM ISOLATED FORMrMEEM ISOLATED FORMsALEF MAKSURA IS",
     "OLATED FORMzbYEH ISOLATED FORMzbLAM WITH JEEM ISOLATED FORMsHAH ISOLATED FORMrKHAH ISOLATED ",
     "FORMsMEEM ISOLATED FORMsALEF MAKSURA ISOLATED FORMzbYEH ISOLATED FORMzbMEEM WITH JEEM ISOLAT",
     "ED FORMsHAH ISOLATED FORMrKHAH ISOLATED FORMsMEEM ISOLATED FORMsALEF MAKSURA ISOLATED FORMzb",
     "YEH ISOLATED FORMzcNOON WITH JEEM ISOLATED FORMsHAH ISOLATED FORMrKHAH ISOLATED FORMsMEEM IS",
     "OLATED FORMsALEF MAKSURA ISOLATED FORMzbYEH ISOLATED FORMzcHEH WITH JEEM ISOLATED FORMsMEEM ",
     "ISOLATED FORMsALEF MAKSURA ISOLATED FORMzbYEH ISOLATED FORMzbYEH WITH JEEM ISOLATED FORMsHAH",
     " ISOLATED FORMrKHAH ISOLATED FORMsMEEM ISOLATED FORMsALEF MAKSURA ISOLATED FORMzbYEH ISOLATE",
     "D FORMzbTHAL WITH SUPERSCRIPT ALEF ISOLATED FORMzpREH WITH SUPERSCRIPT ALEF ISOLATED FORMzoA",
     "LEF MAKSURA WITH SUPERSCRIPT ALEF ISOLATED FORMzxSHADDA WITH DAMMATAN ISOLATED FORMwKASRATAN",
     " ISOLATED FORMwFATHA ISOLATED FORMtDAMMA ISOLATED FORMtKASRA ISOLATED FORMtSUPERSCRIPT ALEF ",
     "ISOLATED FORMzrYEH WITH HAMZA ABOVE WITH REH FINAL FORMoZAIN FINAL FORMpMEEM FINAL FORMpNOON",
     " FINAL FORMpALEF MAKSURA FINAL FORMxYEH FINAL FORMzpBEH WITH REH FINAL FORMoZAIN FINAL FORMp",
     "MEEM FINAL FORMpNOON FINAL FORMpALEF MAKSURA FINAL FORMxYEH FINAL FORMxTEH WITH REH FINAL FO",
     "RMoZAIN FINAL FORMpMEEM FINAL FORMpNOON FINAL FORMpALEF MAKSURA FINAL FORMxYEH FINAL FORMwHE",
     "H WITH REH FINAL FORMoZAIN FINAL FORMpMEEM FINAL FORMpNOON FINAL FORMpALEF MAKSURA FINAL FOR",
     "MxYEH FINAL FORMyFEH WITH ALEF MAKSURA FINAL FORMxYEH FINAL FORMxQAF WITH ALEF MAKSURA FINAL",
     " FORMxYEH FINAL FORMxKAF WITH ALEF FINAL FORMpLAM FINAL FORMoMEEM FINAL FORMpALEF MAKSURA FI",
     "NAL FORMxYEH FINAL FORMxLAM WITH MEEM FINAL FORMpALEF MAKSURA FINAL FORMxYEH FINAL FORMxMEEM",
     " WITH ALEF FINAL FORMpMEEM FINAL FORMzNOON WITH REH FINAL FORMoZAIN FINAL FORMpMEEM FINAL FO",
     "RMpNOON FINAL FORMpALEF MAKSURA FINAL FORMxYEH FINAL FORMyALEF MAKSURA WITH SUPERSCRIPT ALEF",
     " FINAL FORMzuYEH WITH REH FINAL FORMoZAIN FINAL FORMpMEEM FINAL FORMpNOON FINAL FORMpALEF MA",
     "KSURA FINAL FORMxYEH FINAL FORMoHAMZA ABOVE WITH JEEM INITIAL FORMrHAH INITIAL FORMqKHAH INI",
     "TIAL FORMrMEEM INITIAL FORMrHEH INITIAL FORMzrBEH WITH JEEM INITIAL FORMrHAH INITIAL FORMqKH",
     "AH INITIAL FORMrMEEM INITIAL FORMrHEH INITIAL FORMzTEH WITH JEEM INITIAL FORMrHAH INITIAL FO",
     "RMqKHAH INITIAL FORMrMEEM INITIAL FORMrHEH INITIAL FORMyHEH WITH MEEM INITIAL FORMzcJEEM WIT",
     "H HAH INITIAL FORMqMEEM INITIAL FORMzcHAH WITH JEEM INITIAL FORMrMEEM INITIAL FORMzbKHAH WIT",
     "H JEEM INITIAL FORMrMEEM INITIAL FORMzcSEEN WITH JEEM INITIAL FORMrHAH INITIAL FORMqKHAH INI",
     "TIAL FORMrMEEM INITIAL FORMzbAD WITH HAH INITIAL FORMqKHAH INITIAL FORMrMEEM INITIAL FORMzbD",
     "AD WITH JEEM INITIAL FORMrHAH INITIAL FORMqKHAH INITIAL FORMrMEEM INITIAL FORMzbTAH WITH HAH",
     " INITIAL FORMzZAH WITH MEEM INITIAL FORMzbAIN WITH JEEM INITIAL FORMrMEEM INITIAL FORMzbGHAI",
     "N WITH JEEM INITIAL FORMrMEEM INITIAL FORMzdFEH WITH JEEM INITIAL FORMrHAH INITIAL FORMqKHAH",
     " INITIAL FORMrMEEM INITIAL FORMzbQAF WITH HAH INITIAL FORMqMEEM INITIAL FORMzbKAF WITH JEEM ",
     "INITIAL FORMrHAH INITIAL FORMqKHAH INITIAL FORMrLAM INITIAL FORMqMEEM INITIAL FORMzbLAM WITH",
     " JEEM INITIAL FORMrHAH INITIAL FORMqKHAH INITIAL FORMrMEEM INITIAL FORMrHEH INITIAL FORMzMEE",
     "M WITH JEEM INITIAL FORMrHAH INITIAL FORMqKHAH INITIAL FORMrMEEM INITIAL FORMzcNOON WITH JEE",
     "M INITIAL FORMrHAH INITIAL FORMqKHAH INITIAL FORMrMEEM INITIAL FORMrHEH INITIAL FORMzbHEH WI",
     "TH JEEM INITIAL FORMrMEEM INITIAL FORMrSUPERSCRIPT ALEF INITIAL FORMznYEH WITH JEEM INITIAL ",
     "FORMrHAH INITIAL FORMqKHAH INITIAL FORMrMEEM INITIAL FORMrHEH INITIAL FORMpAMZA ABOVE WITH M",
     "EEM MEDIAL FORMqHEH MEDIAL FORMzqBEH WITH MEEM MEDIAL FORMqHEH MEDIAL FORMyTEH WITH MEEM MED",
     "IAL FORMqHEH MEDIAL FORMxHEH WITH MEEM MEDIAL FORMqHEH MEDIAL FORMzSEEN WITH MEEM MEDIAL FOR",
     "MqHEH MEDIAL FORMyHEEN WITH MEEM MEDIAL FORMqHEH MEDIAL FORMzbKAF WITH LAM MEDIAL FORMpMEEM ",
     "MEDIAL FORMzLAM WITH MEEM MEDIAL FORMzNOON WITH MEEM MEDIAL FORMqHEH MEDIAL FORMzYEH WITH ME",
     "EM MEDIAL FORMqHEH MEDIAL FORMySHADDA WITH FATHA MEDIAL FORMrDAMMA MEDIAL FORMrKASRA MEDIAL ",
     "FORMzeTAH WITH ALEF MAKSURA ISOLATED FORMzbYEH ISOLATED FORMzbAIN WITH ALEF MAKSURA ISOLATED",
     " FORMzbYEH ISOLATED FORMzbGHAIN WITH ALEF MAKSURA ISOLATED FORMzbYEH ISOLATED FORMzdSEEN WIT",
     "H ALEF MAKSURA ISOLATED FORMzbYEH ISOLATED FORMzbHEEN WITH ALEF MAKSURA ISOLATED FORMzbYEH I",
     "SOLATED FORMzdHAH WITH ALEF MAKSURA ISOLATED FORMzbYEH ISOLATED FORMzbJEEM WITH ALEF MAKSURA",
     " ISOLATED FORMzbYEH ISOLATED FORMzcKHAH WITH ALEF MAKSURA ISOLATED FORMzbYEH ISOLATED FORMzc",
     "SAD WITH ALEF MAKSURA ISOLATED FORMzbYEH ISOLATED FORMzbDAD WITH ALEF MAKSURA ISOLATED FORMz",
     "bYEH ISOLATED FORMzbSHEEN WITH JEEM ISOLATED FORMsHAH ISOLATED FORMrKHAH ISOLATED FORMsMEEM ",
     "ISOLATED FORMsREH ISOLATED FORMzcEEN WITH REH ISOLATED FORMzbAD WITH REH ISOLATED FORMzbDAD ",
     "WITH REH ISOLATED FORMzbTAH WITH ALEF MAKSURA FINAL FORMxYEH FINAL FORMxAIN WITH ALEF MAKSUR",
     "A FINAL FORMxYEH FINAL FORMxGHAIN WITH ALEF MAKSURA FINAL FORMxYEH FINAL FORMzSEEN WITH ALEF",
     " MAKSURA FINAL FORMxYEH FINAL FORMxHEEN WITH ALEF MAKSURA FINAL FORMxYEH FINAL FORMzHAH WITH",
     " ALEF MAKSURA FINAL FORMxYEH FINAL FORMxJEEM WITH ALEF MAKSURA FINAL FORMxYEH FINAL FORMyKHA",
     "H WITH ALEF MAKSURA FINAL FORMxYEH FINAL FORMySAD WITH ALEF MAKSURA FINAL FORMxYEH FINAL FOR",
     "MxDAD WITH ALEF MAKSURA FINAL FORMxYEH FINAL FORMxSHEEN WITH JEEM FINAL FORMpHAH FINAL FORMo",
     "KHAH FINAL FORMpMEEM FINAL FORMpREH FINAL FORMyEEN WITH REH FINAL FORMxAD WITH REH FINAL FOR",
     "MxDAD WITH REH FINAL FORMxSHEEN WITH JEEM INITIAL FORMrHAH INITIAL FORMqKHAH INITIAL FORMrME",
     "EM INITIAL FORMzcEEN WITH HEH INITIAL FORMzHEEN WITH HEH INITIAL FORMzcTAH WITH MEEM INITIAL",
     " FORMzbSEEN WITH JEEM MEDIAL FORMqHAH MEDIAL FORMpKHAH MEDIAL FORMzHEEN WITH JEEM MEDIAL FOR",
     "MqHAH MEDIAL FORMpKHAH MEDIAL FORMzcTAH WITH MEEM MEDIAL FORMzZAH WITH MEEM MEDIAL FORMzALEF",
     " WITH FATHATAN FINAL FORMkISOLATED FORMzxORNATE LEFT PARENTHESISqRIGHT PARENTHESISyARABIC LI",
     "GATURE RAHIMAHU ALLAAHnDI ALLAAHU ANHaAAcUMaAAdNNAuSALLALLAAHU ALAYHI WA-AALIHzcALAYHI AS-SA",
     "LAAMkM AS-SALAAMkAA AS-SALAAMn AS-SALAATU WAS-SALAAMzdQUDDISA SIRRAHoSALLALLAHU ALAYHI WAAAL",
     "IHEE WA-SALLAMzmALAYHAA AS-SALAAMrTABAARAKA WA-TAAALAAuRAHIMAHUM ALLAAHqTEH WITH JEEM WITH M",
     "EEM INITIAL FORMzcHAH WITH JEEM FINAL FORMkINITIAL FORMrMEEM INITIAL FORMzbKHAH WITH MEEM IN",
     "ITIAL FORMzcMEEM WITH JEEM INITIAL FORMrHAH INITIAL FORMqKHAH INITIAL FORMzlJEEM WITH MEEM W",
     "ITH HAH FINAL FORMkINITIAL FORMzlHAH WITH MEEM WITH YEH FINAL FORMoALEF MAKSURA FINAL FORMzr",
     "SEEN WITH HAH WITH JEEM INITIAL FORMzbJEEM WITH HAH INITIAL FORMqALEF MAKSURA FINAL FORMziME",
     "EM WITH HAH FINAL FORMkINITIAL FORMqJEEM INITIAL FORMrMEEM FINAL FORMkINITIAL FORMzlAD WITH ",
     "HAH WITH HAH FINAL FORMkINITIAL FORMzMEEM WITH MEEM FINAL FORMziHEEN WITH HAH WITH MEEM FINA",
     "L FORMkINITIAL FORMzbJEEM WITH YEH FINAL FORMyMEEM WITH KHAH FINAL FORMkINITIAL FORMrMEEM FI",
     "NAL FORMkINITIAL FORMznDAD WITH HAH WITH ALEF MAKSURA FINAL FORMzhKHAH WITH MEEM FINAL FORMk",
     "INITIAL FORMzlTAH WITH MEEM WITH HAH FINAL FORMkINITIAL FORMqMEEM INITIAL FORMrYEH FINAL FOR",
     "MziAIN WITH JEEM WITH MEEM FINAL FORMzMEEM WITH MEEM FINAL FORMkINITIAL FORMrALEF MAKSURA FI",
     "NAL FORMzrGHAIN WITH MEEM WITH MEEM FINAL FORMpYEH FINAL FORMoALEF MAKSURA FINAL FORMztFEH W",
     "ITH KHAH WITH MEEM FINAL FORMkINITIAL FORMzlQAF WITH MEEM WITH HAH FINAL FORMoMEEM FINAL FOR",
     "MzjLAM WITH HAH WITH MEEM FINAL FORMpYEH FINAL FORMoALEF MAKSURA FINAL FORMzhJEEM WITH JEEM ",
     "INITIAL FORMmFINAL FORMzKHAH WITH MEEM FINAL FORMkINITIAL FORMzcMEEM WITH HAH FINAL FORMkINI",
     "TIAL FORMzkMEEM WITH HAH WITH JEEM INITIAL FORMrMEEM INITIAL FORMrYEH FINAL FORMxJEEM WITH H",
     "AH INITIAL FORMqMEEM INITIAL FORMzcKHAH WITH JEEM INITIAL FORMrMEEM INITIAL FORM"]⟩,
  ⟨0xFD92, ["ARABIC LIGATURE MEEM WITH JEEM WITH KHAH INITIAL FORMzmHEH WITH MEEM WITH JEEM INITIA",
     "L FORMrMEEM INITIAL FORMzlNOON WITH HAH WITH MEEM INITIAL FORMrALEF MAKSURA FINAL FORMzhJEEM",
     " WITH MEEM FINAL FORMkINITIAL FORMrALEF MAKSURA FINAL FORMziMEEM WITH YEH FINAL FORMoALEF MA",
     "KSURA FINAL FORMzsYEH WITH MEEM WITH MEEM FINAL FORMkINITIAL FORMzlBEH WITH KHAH WITH YEH FI",
     "NAL FORMziTEH WITH JEEM WITH YEH FINAL FORMoALEF MAKSURA FINAL FORMziKHAH WITH YEH FINAL FOR",
     "MoALEF MAKSURA FINAL FORMziMEEM WITH YEH FINAL FORMoALEF MAKSURA FINAL FORMzrJEEM WITH MEEM ",
     "WITH YEH FINAL FORMyHAH WITH ALEF MAKSURA FINAL FORMzhMEEM WITH ALEF MAKSURA FINAL FORMzsSEE",
     "N WITH KHAH WITH ALEF MAKSURA FINAL FORMzrAD WITH HAH WITH YEH FINAL FORMzgHEEN WITH HAH WIT",
     "H YEH FINAL FORMzjDAD WITH HAH WITH YEH FINAL FORMzhLAM WITH JEEM WITH YEH FINAL FORMyMEEM W",
     "ITH YEH FINAL FORMziYEH WITH HAH WITH YEH FINAL FORMxJEEM WITH YEH FINAL FORMyMEEM WITH YEH ",
     "FINAL FORMziMEEM WITH MEEM WITH YEH FINAL FORMzjQAF WITH MEEM WITH YEH FINAL FORMziNOON WITH",
     " HAH WITH YEH FINAL FORMziQAF WITH MEEM WITH HAH INITIAL FORMzkLAM WITH HAH WITH MEEM INITIA",
     "L FORMzkAIN WITH MEEM WITH YEH FINAL FORMziKAF WITH MEEM WITH YEH FINAL FORMziNOON WITH JEEM",
     " WITH HAH INITIAL FORMzlMEEM WITH KHAH WITH YEH FINAL FORMzjLAM WITH JEEM WITH MEEM INITIAL ",
     "FORMzlKAF WITH MEEM WITH MEEM FINAL FORMzjLAM WITH JEEM WITH MEEM FINAL FORMzjNOON WITH JEEM",
     " WITH HAH FINAL FORMzjJEEM WITH HAH WITH YEH FINAL FORMziHAH WITH JEEM WITH YEH FINAL FORMzi",
     "MEEM WITH JEEM WITH YEH FINAL FORMzjFEH WITH MEEM WITH YEH FINAL FORMziBEH WITH HAH WITH YEH",
     " FINAL FORMzhKAF WITH MEEM WITH MEEM INITIAL FORMzlAIN WITH JEEM WITH MEEM INITIAL FORMzlSAD",
     " WITH MEEM WITH MEEM INITIAL FORMzkEEN WITH KHAH WITH YEH FINAL FORMzjNOON WITH JEEM WITH YE",
     "H FINAL FORM"]⟩,
  ⟨0xFDCF, ["ARABIC LIGATURE SALAAMUHU ALAYNAA"]⟩,
  ⟨0xFDF0, ["ARABIC LIGATURE SALLA USED AS KORANIC STOP SIGN ISOLATED FORMzuQALA USED AS KORANIC S",
     "TOP SIGN ISOLATED FORMztALLAH ISOLATED FORMsKBAR ISOLATED FORMtMOHAMMAD ISOLATED FORMwSALAM ",
     "ISOLATED FORMtRASOUL ISOLATED FORMuALAYHE ISOLATED FORMuWASALLAM ISOLATED FORMwSALLA ISOLATE",
     "D FORMoLLAHOU ALAYHE WASALLAMzcJALLAJALALOUHOUzgRIAL SIGNjARABIC LIGATURE BISMILLAH AR-RAHMA",
     "N AR-RAHEEMzeSUBHAANAHU WA TAAALAAvAZZA WA JALLzdVARIATION SELECTOR-1b2b3b4b5b6b7b8b9b10b1b2",
     "b3b4b5b6vPRESENTATION FORM FOR VERTICAL COMMAfIDEOGRAPHIC COMMAfFULL STOPvCOLONfSEMICOLONjEX",
     "CLAMATION MARKqQUESTION MARKnLEFT WHITE LENTICULAR BRACKETzeRIGHT WHITE LENTICULAR BRAKCETzf",
     "HORIZONTAL ELLIPSIS"]⟩,
  ⟨0xFE20, ["COMBINING LIGATURE LEFT HALFjRIGHT HALFtDOUBLE TILDE LEFT HALFjRIGHT HALFxMACRON LEFT",
     " HALFjRIGHT HALFrCONJOINING MACRONrLIGATURE LEFT HALF BELOWpRIGHT HALF BELOWzTILDE LEFT HALF",
     " BELOWpRIGHT HALF BELOWwMACRON LEFT HALF BELOWpRIGHT HALF BELOWxCONJOINING MACRON BELOWwYRIL",
     "LIC TITLO LEFT HALFjRIGHT HALFzkPRESENTATION FORM FOR VERTICAL TWO DOT LEADERoEM DASHgN DASH",
     "hLOW LINEiWAVY LOW LINEnLEFT PARENTHESISqRIGHT PARENTHESISrLEFT CURLY BRACKETsRIGHT CURLY BR",
     "ACKETtLEFT TORTOISE SHELL BRACKETzcRIGHT TORTOISE SHELL BRACKETzdLEFT BLACK LENTICULAR BRACK",
     "ETzeRIGHT BLACK LENTICULAR BRACKETzfLEFT DOUBLE ANGLE BRACKETzRIGHT DOUBLE ANGLE BRACKETzbLE",
     "FT ANGLE BRACKETsRIGHT ANGLE BRACKETtLEFT CORNER BRACKETtRIGHT CORNER BRACKETuLEFT WHITE COR",
     "NER BRACKETzRIGHT WHITE CORNER BRACKETzzhSESAME DOTkWHITE SESAME DOTqPRESENTATION FORM FOR V",
     "ERTICAL LEFT SQUARE BRACKETtRIGHT SQUARE BRACKETzzbDASHED OVERLINEpCENTRELINE OVERLINEtWAVY ",
     "OVERLINEnDOUBLE WAVY OVERLINEtASHED LOW LINEpCENTRELINE LOW LINEtWAVY LOW LINEnSMALL COMMAfI",
     "DEOGRAPHIC COMMArFULL STOP"]⟩,
  ⟨0xFE54, ["SMALL SEMICOLONjCOLONfQUESTION MARKnEXCLAMATION MARKpM DASHhLEFT PARENTHESISqRIGHT PA",
     "RENTHESISrLEFT CURLY BRACKETsRIGHT CURLY BRACKETtLEFT TORTOISE SHELL BRACKETzcRIGHT TORTOISE",
     " SHELL BRACKETzdNUMBER SIGNlAMPERSANDiSTERISKiPLUS SIGNjHYPHEN-MINUSmLESS-THAN SIGNoGREATER-",
     "THAN SIGNrEQUALS SIGN"]⟩,
  ⟨0xFE68, ["SMALL REVERSE SOLIDUSpDOLLAR SIGNlPERCENT SIGNmCOMMERCIAL AT"]⟩,
  ⟨0xFE70, ["ARABIC FATHATAN ISOLATED FORMwTATWEEL WITH FATHATAN ABOVEzcDAMMATAN ISOLATED FORMwTAI",
     "L FRAGMENTnKASRATAN ISOLATED FORM"]⟩,
  ⟨0xFE76, ["ARABIC FATHA ISOLATED FORMnMEDIAL FORMrDAMMA ISOLATED FORMnMEDIAL FORMrKASRA ISOLATED",
     " FORMnMEDIAL FORMrSHADDA ISOLATED FORMnMEDIAL FORMrUKUN ISOLATED FORMnMEDIAL FORMrLETTER HAM",
     "ZA ISOLATED FORMtALEF WITH MADDA ABOVE ISOLATED FORMnFINAL FORMwHAMZA ABOVE ISOLATED FORMnFI",
     "NAL FORMzhWAW WITH HAMZA ABOVE ISOLATED FORMnFINAL FORMzgALEF WITH HAMZA BELOW ISOLATED FORM",
     "nFINAL FORMzhYEH WITH HAMZA ABOVE ISOLATED FORMnFINAL FORMkINITIAL FORMmMEDIAL FORMzhALEF IS",
     "OLATED FORMnFINAL FORMpBEH ISOLATED FORMnFINAL FORMkINITIAL FORMmMEDIAL FORMpTEH MARBUTA ISO",
     "LATED FORMnFINAL FORMsISOLATED FORMnFINAL FORMkINITIAL FORMmMEDIAL FORMoHEH ISOLATED FORMnFI",
     "NAL FORMkINITIAL FORMmMEDIAL FORMqJEEM ISOLATED FORMnFINAL FORMkINITIAL FORMmMEDIAL FORMqHAH",
     " ISOLATED FORMnFINAL FORMkINITIAL FORMmMEDIAL FORMpKHAH ISOLATED FORMnFINAL FORMkINITIAL FOR",
     "MmMEDIAL FORMqDAL ISOLATED FORMnFINAL FORMoTHAL ISOLATED FORMnFINAL FORMpREH ISOLATED FORMnF",
     "INAL FORMoZAIN ISOLATED FORMnFINAL FORMpSEEN ISOLATED FORMnFINAL FORMkINITIAL FORMmMEDIAL FO",
     "RMpHEEN ISOLATED FORMnFINAL FORMkINITIAL FORMmMEDIAL FORMqAD ISOLATED FORMnFINAL FORMkINITIA",
     "L FORMmMEDIAL FORMpDAD ISOLATED FORMnFINAL FORMkINITIAL FORMmMEDIAL FORMpTAH ISOLATED FORMnF",
     "INAL FORMkINITIAL FORMmMEDIAL FORMpZAH ISOLATED FORMnFINAL FORMkINITIAL FORMmMEDIAL FORMpAIN",
     " ISOLATED FORMnFINAL FORMkINITIAL FORMmMEDIAL FORMpGHAIN ISOLATED FORMnFINAL FORMkINITIAL FO",
     "RMmMEDIAL FORMrFEH ISOLATED FORMnFINAL FORMkINITIAL FORMmMEDIAL FORMpQAF ISOLATED FORMnFINAL",
     " FORMkINITIAL FORMmMEDIAL FORMpKAF ISOLATED FORMnFINAL FORMkINITIAL FORMmMEDIAL FORMpLAM ISO",
     "LATED FORMnFINAL FORMkINITIAL FORMmMEDIAL FORMpMEEM ISOLATED FORMnFINAL FORMkINITIAL FORMmME",
     "DIAL FORMqNOON ISOLATED FORMnFINAL FORMkINITIAL FORMmMEDIAL FORMqHEH ISOLATED FORMnFINAL FOR",
     "MkINITIAL FORMmMEDIAL FORMpWAW ISOLATED FORMnFINAL FORMoALEF MAKSURA ISOLATED FORMnFINAL FOR",
     "MxYEH ISOLATED FORMnFINAL FORMkINITIAL FORMmMEDIAL FORMvIGATURE LAM WITH ALEF WITH MADDA ABO",
     "VE ISOLATED FORMnFINAL FORMwHAMZA ABOVE ISOLATED FORMnFINAL FORMqBELOW ISOLATED FORMnFINAL F",
     "ORMzcISOLATED FORMnFINAL FORM"]⟩,
  ⟨0xFEFF, ["ZERO WIDTH NO-BREAK SPACE"]⟩,
  ⟨0xFF01, ["FULLWIDTH EXCLAMATION MARKqQUOTATION MARKoNUMBER SIGNlDOLLAR SIGNlPERCENT SIGNmAMPERS",
     "ANDiPOSTROPHEkLEFT PARENTHESISqRIGHT PARENTHESISrASTERISKiPLUS SIGNjCOMMAfHYPHEN-MINUSmFULL ",
     "STOPjSOLIDUShDIGIT ZEROeONEdTWOcHREEfFOURdIVEeSIXcEVENfEIGHTfNINEkCOLONfSEMICOLONjLESS-THAN ",
     "SIGNoEQUALS SIGNlGREATER-THAN SIGNrQUESTION MARKnCOMMERCIAL ATnLATIN CAPITAL LETTER AbBbCbDb",
     "EbFbGbHbIbJbKbLbMbNbObPbQbRbSbTbUbVbWbXbYbZvEFT SQUARE BRACKETtREVERSE SOLIDUSoIGHT SQUARE B",
     "RACKETuCIRCUMFLEX ACCENTrLOW LINEiGRAVE ACCENTmLATIN SMALL LETTER AbBbCbDbEbFbGbHbIbJbKbLbMb",
     "NbObPbQbRbSbTbUbVbWbXbYbZtEFT CURLY BRACKETsVERTICAL LINEnRIGHT CURLY BRACKETtTILDEfLEFT WHI",
     "TE PARENTHESISwRIGHT WHITE PARENTHESISziHALFWIDTH IDEOGRAPHIC FULL STOPvLEFT CORNER BRACKETt",
     "RIGHT CORNER BRACKETuIDEOGRAPHIC COMMArKATAKANA MIDDLE DOTkLETTER WOcSMALL AbIbUbEbObYAbUbOc",
     "TUq-HIRAGANA PROLONGED SOUND MARKzf LETTER AbIbUbEbObKAbIbUbEbOcSAbIbUbEbOcTAbIbUbEbOcNAbIbU",
     "bEbOcHAbIbUbEbOcMAbIbUbEbOcYAbUbOcRAbIbUbEbOcWAcNiVOICED SOUND MARKrSEMI-VOICED SOUND MARKzg",
     "HANGUL FILLERgLETTER KIYEOKgSSANGKIYEOKlKIYEOK-SIOSlNIEUNa-CIEUCfHIEUHlTIKEUTgSSANGTIKEUTlRI",
     "EULa-KIYEOKgMIEUMfPIEUPfSIOSeTHIEUTHhPHIEUPHhHIEUHlMIEUMfPIEUPfSSANGPIEUPkPIEUP-SIOSkSIOSdSA",
     "NGSIOSjIEUNGfCIEUCfSSANGCIEUCkCHIEUCHhKHIEUKHhTHIEUTHhPHIEUPHhHIEUH"]⟩,
  ⟨0xFFC2, ["HALFWIDTH HANGUL LETTER AaEcYAaEdEOcE"]⟩,
  ⟨0xFFCA, ["HALFWIDTH HANGUL LETTER YEOcEcObWAaEdOE"]⟩,
  ⟨0xFFD2, ["HALFWIDTH HANGUL LETTER YOcUbWEOcEbIcYU"]⟩,
  ⟨0xFFDA, ["HALFWIDTH HANGUL LETTER EUcYIcI"]⟩,
  ⟨0xFFE0, ["FULLWIDTH CENT SIGNjPOUND SIGNkNOT SIGNiMACRONgBROKEN BARkYEN SIGNiWON SIGN"]⟩,
  ⟨0xFFE8, ["HALFWIDTH FORMS LIGHT VERTICALuLEFTWARDS ARROWpUPWARDS ARROWnRIGHTWARDS ARROWqDOWNWAR",
     "DS ARROWpBLACK SQUAREmWHITE CIRCLE"]⟩,
  ⟨0xFFF9, ["INTERLINEAR ANNOTATION ANCHORgSEPARATORjTERMINATORziOBJECT REPLACEMENT CHARACTERzdREP",
     "LACEMENT CHARACTER"]⟩]

end ModalHighlight.Text
