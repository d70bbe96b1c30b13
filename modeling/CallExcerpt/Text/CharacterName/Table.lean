/-! # Names of characters

    The names of all characters except those that are numbered, and the
    syllables that are spelt: `CharacterName` knows the rules for these.

    Names stand in the order of their code points. A small letter begins a
    name and tells how many characters it shares with the name before it:
    `a` none, `b` one, and so on; each `z` before the letter counts for 25.
    The rest of the name follows. A point stands for a code point without a
    name.
-/

namespace CallExcerpt.Text

/-- Names of consecutive code points from a first one on. -/
def nameBlocks : List (Nat × List String) := [
  (0x20, ["aSPACEaEXCLAMATION MARKaQUOTATION MARKaNUMBER SIGNaDOLLAR SIGNaPERCENT SIGNaAMPERSANDb",
    "POSTROPHEaLEFT PARENTHESISaRIGHT PARENTHESISaASTERISKaPLUS SIGNaCOMMAaHYPHEN-MINUSaFULL STOP",
    "aSOLIDUSaDIGIT ZEROgONEgTWOhHREEgFOURhIVEgSIXhEVENgEIGHTgNINEaCOLONaSEMICOLONaLESS-THAN SIGN",
    "aEQUALS SIGNaGREATER-THAN SIGNaQUESTION MARKaCOMMERCIAL ATaLATIN CAPITAL LETTER AvBvCvDvEvFv",
    "GvHvIvJvKvLvMvNvOvPvQvRvSvTvUvVvWvXvYvZbEFT SQUARE BRACKETaREVERSE SOLIDUSbIGHT SQUARE BRACK",
    "ETaCIRCUMFLEX ACCENTaLOW LINEaGRAVE ACCENTaLATIN SMALL LETTER AtBtCtDtEtFtGtHtItJtKtLtMtNtOt",
    "PtQtRtStTtUtVtWtXtYtZbEFT CURLY BRACKETaVERTICAL LINEaRIGHT CURLY BRACKETaTILDE"]),
  (0xA0, ["aNO-BREAK SPACEaINVERTED EXCLAMATION MARKaCENT SIGNaPOUND SIGNaCURRENCY SIGNaYEN SIGNa",
    "BROKEN BARaSECTION SIGNaDIAERESISaCOPYRIGHT SIGNaFEMININE ORDINAL INDICATORaLEFT-POINTING DO",
    "UBLE ANGLE QUOTATION MARKaNOT SIGNaSOFT HYPHENaREGISTERED SIGNaMACRONaDEGREE SIGNaPLUS-MINUS",
    " SIGNaSUPERSCRIPT TWOnHREEaACUTE ACCENTaMICRO SIGNaPILCROW SIGNaMIDDLE DOTaCEDILLAaSUPERSCRI",
    "PT ONEaMASCULINE ORDINAL INDICATORaRIGHT-POINTING DOUBLE ANGLE QUOTATION MARKaVULGAR FRACTIO",
    "N ONE QUARTERuHALFqTHREE QUARTERSaINVERTED QUESTION MARKaLATIN CAPITAL LETTER A WITH GRAVEzd",
    "ACUTEzdCIRCUMFLEXzdTILDEzdDIAERESISzdRING ABOVEwEvC WITH CEDILLAvE WITH GRAVEzdACUTEzdCIRCUM",
    "FLEXzdDIAERESISvI WITH GRAVEzdACUTEzdCIRCUMFLEXzdDIAERESISvETHvN WITH TILDEvO WITH GRAVEzdAC",
    "UTEzdCIRCUMFLEXzdTILDEzdDIAERESISaMULTIPLICATION SIGNaLATIN CAPITAL LETTER O WITH STROKEvU W",
    "ITH GRAVEzdACUTEzdCIRCUMFLEXzdDIAERESISvY WITH ACUTEvTHORNgSMALL LETTER SHARP StA WITH GRAVE",
    "zbACUTEzbCIRCUMFLEXzbTILDEzbDIAERESISzbRING ABOVEuEtC WITH CEDILLAtE WITH GRAVEzbACUTEzbCIRC",
    "UMFLEXzbDIAERESIStI WITH GRAVEzbACUTEzbCIRCUMFLEXzbDIAERESIStETHtN WITH TILDEtO WITH GRAVEzb",
    "ACUTEzbCIRCUMFLEXzbTILDEzbDIAERESISaDIVISION SIGNaLATIN SMALL LETTER O WITH STROKEtU WITH GR",
    "AVEzbACUTEzbCIRCUMFLEXzbDIAERESIStY WITH ACUTEtTHORNtY WITH DIAERESISgCAPITAL LETTER A WITH ",
    "MACRONgSMALL LETTER A WITH MACRONgCAPITAL LETTER A WITH BREVEgSMALL LETTER A WITH BREVEgCAPI",
    "TAL LETTER A WITH OGONEKgSMALL LETTER A WITH OGONEKgCAPITAL LETTER C WITH ACUTEgSMALL LETTER",
    " C WITH ACUTEgCAPITAL LETTER C WITH CIRCUMFLEXgSMALL LETTER C WITH CIRCUMFLEXgCAPITAL LETTER",
    " C WITH DOT ABOVEgSMALL LETTER C WITH DOT ABOVEgCAPITAL LETTER C WITH CARONgSMALL LETTER C W",
    "ITH CARONgCAPITAL LETTER D WITH CARONgSMALL LETTER D WITH CARONgCAPITAL LETTER D WITH STROKE",
    "gSMALL LETTER D WITH STROKEgCAPITAL LETTER E WITH MACRONgSMALL LETTER E WITH MACRONgCAPITAL ",
    "LETTER E WITH BREVEgSMALL LETTER E WITH BREVEgCAPITAL LETTER E WITH DOT ABOVEgSMALL LETTER E",
    " WITH DOT ABOVEgCAPITAL LETTER E WITH OGONEKgSMALL LETTER E WITH OGONEKgCAPITAL LETTER E WIT",
    "H CARONgSMALL LETTER E WITH CARONgCAPITAL LETTER G WITH CIRCUMFLEXgSMALL LETTER G WITH CIRCU",
    "MFLEXgCAPITAL LETTER G WITH BREVEgSMALL LETTER G WITH BREVEgCAPITAL LETTER G WITH DOT ABOVEg",
    "SMALL LETTER G WITH DOT ABOVEgCAPITAL LETTER G WITH CEDILLAgSMALL LETTER G WITH CEDILLAgCAPI",
    "TAL LETTER H WITH CIRCUMFLEXgSMALL LETTER H WITH CIRCUMFLEXgCAPITAL LETTER H WITH STROKEgSMA",
    "LL LETTER H WITH STROKEgCAPITAL LETTER I WITH TILDEgSMALL LETTER I WITH TILDEgCAPITAL LETTER",
    " I WITH MACRONgSMALL LETTER I WITH MACRONgCAPITAL LETTER I WITH BREVEgSMALL LETTER I WITH BR",
    "EVEgCAPITAL LETTER I WITH OGONEKgSMALL LETTER I WITH OGONEKgCAPITAL LETTER I WITH DOT ABOVEg",
    "SMALL LETTER DOTLESS IgCAPITAL LIGATURE IJgSMALL LIGATURE IJgCAPITAL LETTER J WITH CIRCUMFLE",
    "XgSMALL LETTER J WITH CIRCUMFLEXgCAPITAL LETTER K WITH CEDILLAgSMALL LETTER K WITH CEDILLAuR",
    "AgCAPITAL LETTER L WITH ACUTEgSMALL LETTER L WITH ACUTEgCAPITAL LETTER L WITH CEDILLAgSMALL ",
    "LETTER L WITH CEDILLAgCAPITAL LETTER L WITH CARONgSMALL LETTER L WITH CARONgCAPITAL LETTER L",
    " WITH MIDDLE DOTgSMALL LETTER L WITH MIDDLE DOTgCAPITAL LETTER L WITH STROKEgSMALL LETTER L ",
    "WITH STROKEgCAPITAL LETTER N WITH ACUTEgSMALL LETTER N WITH ACUTEgCAPITAL LETTER N WITH CEDI",
    "LLAgSMALL LETTER N WITH CEDILLAgCAPITAL LETTER N WITH CARONgSMALL LETTER N WITH CARONvPRECED",
    "ED BY APOSTROPHEgCAPITAL LETTER ENGgSMALL LETTER ENGgCAPITAL LETTER O WITH MACRONgSMALL LETT",
    "ER O WITH MACRONgCAPITAL LETTER O WITH BREVEgSMALL LETTER O WITH BREVEgCAPITAL LETTER O WITH",
    " DOUBLE ACUTEgSMALL LETTER O WITH DOUBLE ACUTEgCAPITAL LIGATURE OEgSMALL LIGATURE OEgCAPITAL",
    " LETTER R WITH ACUTEgSMALL LETTER R WITH ACUTEgCAPITAL LETTER R WITH CEDILLAgSMALL LETTER R ",
    "WITH CEDILLAgCAPITAL LETTER R WITH CARONgSMALL LETTER R WITH CARONgCAPITAL LETTER S WITH ACU",
    "TEgSMALL LETTER S WITH ACUTEgCAPITAL LETTER S WITH CIRCUMFLEXgSMALL LETTER S WITH CIRCUMFLEX",
    "gCAPITAL LETTER S WITH CEDILLAgSMALL LETTER S WITH CEDILLAgCAPITAL LETTER S WITH CARONgSMALL",
    " LETTER S WITH CARONgCAPITAL LETTER T WITH CEDILLAgSMALL LETTER T WITH CEDILLAgCAPITAL LETTE",
    "R T WITH CARONgSMALL LETTER T WITH CARONgCAPITAL LETTER T WITH STROKEgSMALL LETTER T WITH ST",
    "ROKEgCAPITAL LETTER U WITH TILDEgSMALL LETTER U WITH TILDEgCAPITAL LETTER U WITH MACRONgSMAL",
    "L LETTER U WITH MACRONgCAPITAL LETTER U WITH BREVEgSMALL LETTER U WITH BREVEgCAPITAL LETTER ",
    "U WITH RING ABOVEgSMALL LETTER U WITH RING ABOVEgCAPITAL LETTER U WITH DOUBLE ACUTEgSMALL LE",
    "TTER U WITH DOUBLE ACUTEgCAPITAL LETTER U WITH OGONEKgSMALL LETTER U WITH OGONEKgCAPITAL LET",
    "TER W WITH CIRCUMFLEXgSMALL LETTER W WITH CIRCUMFLEXgCAPITAL LETTER Y WITH CIRCUMFLEXgSMALL ",
    "LETTER Y WITH CIRCUMFLEXgCAPITAL LETTER Y WITH DIAERESISvZ WITH ACUTEgSMALL LETTER Z WITH AC",
    "UTEgCAPITAL LETTER Z WITH DOT ABOVEgSMALL LETTER Z WITH DOT ABOVEgCAPITAL LETTER Z WITH CARO",
    "NgSMALL LETTER Z WITH CARONtLONG StB WITH STROKEgCAPITAL LETTER B WITH HOOKzdTOPBARgSMALL LE",
    "TTER B WITH TOPBARgCAPITAL LETTER TONE SIXgSMALL LETTER TONE SIXgCAPITAL LETTER OPEN OvC WIT",
    "H HOOKgSMALL LETTER C WITH HOOKgCAPITAL LETTER AFRICAN DvD WITH HOOKzdTOPBARgSMALL LETTER D ",
    "WITH TOPBARtTURNED DELTAgCAPITAL LETTER REVERSED EvSCHWAvOPEN EvF WITH HOOKgSMALL LETTER F W",
    "ITH HOOKgCAPITAL LETTER G WITH HOOKwAMMAgSMALL LETTER HVgCAPITAL LETTER IOTAw WITH STROKEvK ",
    "WITH HOOKgSMALL LETTER K WITH HOOKtL WITH BARuAMBDA WITH STROKEgCAPITAL LETTER TURNED MvN WI",
    "TH LEFT HOOKgSMALL LETTER N WITH LONG RIGHT LEGgCAPITAL LETTER O WITH MIDDLE TILDEzdHORNgSMA",
    "LL LETTER O WITH HORNgCAPITAL LETTER OIgSMALL LETTER OIgCAPITAL LETTER P WITH HOOKgSMALL LET",
    "TER P WITH HOOKgLETTER YRgCAPITAL LETTER TONE TWOgSMALL LETTER TONE TWOgCAPITAL LETTER ESHgL",
    "ETTER REVERSED ESH LOOPgSMALL LETTER T WITH PALATAL HOOKgCAPITAL LETTER T WITH HOOKgSMALL LE",
    "TTER T WITH HOOKgCAPITAL LETTER T WITH RETROFLEX HOOKvU WITH HORNgSMALL LETTER U WITH HORNgC",
    "APITAL LETTER UPSILONvV WITH HOOKvY WITH HOOKgSMALL LETTER Y WITH HOOKgCAPITAL LETTER Z WITH",
    " STROKEgSMALL LETTER Z WITH STROKEgCAPITAL LETTER EZHy REVERSEDgSMALL LETTER EZH REVERSEDxWI",
    "TH TAILgLETTER TWO WITH STROKEgCAPITAL LETTER TONE FIVEgSMALL LETTER TONE FIVEgLETTER INVERT",
    "ED GLOTTAL STOP WITH STROKEnWYNNnDENTAL CLICKnLATERAL CLICKnALVEOLAR CLICKnRETROFLEX CLICKgC",
    "APITAL LETTER DZ WITH CARONw WITH SMALL LETTER Z WITH CARONgSMALL LETTER DZ WITH CARONgCAPIT",
    "AL LETTER LJw WITH SMALL LETTER JgSMALL LETTER LJgCAPITAL LETTER NJw WITH SMALL LETTER JgSMA",
    "LL LETTER NJgCAPITAL LETTER A WITH CARONgSMALL LETTER A WITH CARONgCAPITAL LETTER I WITH CAR",
    "ONgSMALL LETTER I WITH CARONgCAPITAL LETTER O WITH CARONgSMALL LETTER O WITH CARONgCAPITAL L",
    "ETTER U WITH CARONgSMALL LETTER U WITH CARONgCAPITAL LETTER U WITH DIAERESIS AND MACRONgSMAL",
    "L LETTER U WITH DIAERESIS AND MACRONgCAPITAL LETTER U WITH DIAERESIS AND ACUTEgSMALL LETTER ",
    "U WITH DIAERESIS AND ACUTEgCAPITAL LETTER U WITH DIAERESIS AND CARONgSMALL LETTER U WITH DIA",
    "ERESIS AND CARONgCAPITAL LETTER U WITH DIAERESIS AND GRAVEgSMALL LETTER U WITH DIAERESIS AND",
    " GRAVEtTURNED EgCAPITAL LETTER A WITH DIAERESIS AND MACRONgSMALL LETTER A WITH DIAERESIS AND",
    " MACRONgCAPITAL LETTER A WITH DOT ABOVE AND MACRONgSMALL LETTER A WITH DOT ABOVE AND MACRONg",
    "CAPITAL LETTER AE WITH MACRONgSMALL LETTER AE WITH MACRONgCAPITAL LETTER G WITH STROKEgSMALL",
    " LETTER G WITH STROKEgCAPITAL LETTER G WITH CARONgSMALL LETTER G WITH CARONgCAPITAL LETTER K",
    " WITH CARONgSMALL LETTER K WITH CARONgCAPITAL LETTER O WITH OGONEKgSMALL LETTER O WITH OGONE",
    "KgCAPITAL LETTER O WITH OGONEK AND MACRONgSMALL LETTER O WITH OGONEK AND MACRONgCAPITAL LETT",
    "ER EZH WITH CARONgSMALL LETTER EZH WITH CARONtJ WITH CARONgCAPITAL LETTER DZw WITH SMALL LET",
    "TER ZgSMALL LETTER DZgCAPITAL LETTER G WITH ACUTEgSMALL LETTER G WITH ACUTEgCAPITAL LETTER H",
    "WAIRvWYNNvN WITH GRAVEgSMALL LETTER N WITH GRAVEgCAPITAL LETTER A WITH RING ABOVE AND ACUTEg",
    "SMALL LETTER A WITH RING ABOVE AND ACUTEgCAPITAL LETTER AE WITH ACUTEgSMALL LETTER AE WITH A",
    "CUTEgCAPITAL LETTER O WITH STROKE AND ACUTEgSMALL LETTER O WITH STROKE AND ACUTEgCAPITAL LET",
    "TER A WITH DOUBLE GRAVEgSMALL LETTER A WITH DOUBLE GRAVEgCAPITAL LETTER A WITH INVERTED BREV",
    "EgSMALL LETTER A WITH INVERTED BREVEgCAPITAL LETTER E WITH DOUBLE GRAVEgSMALL LETTER E WITH ",
    "DOUBLE GRAVEgCAPITAL LETTER E WITH INVERTED BREVEgSMALL LETTER E WITH INVERTED BREVEgCAPITAL",
    " LETTER I WITH DOUBLE GRAVEgSMALL LETTER I WITH DOUBLE GRAVEgCAPITAL LETTER I WITH INVERTED ",
    "BREVEgSMALL LETTER I WITH INVERTED BREVEgCAPITAL LETTER O WITH DOUBLE GRAVEgSMALL LETTER O W",
    "ITH DOUBLE GRAVEgCAPITAL LETTER O WITH INVERTED BREVEgSMALL LETTER O WITH INVERTED BREVEgCAP",
    "ITAL LETTER R WITH DOUBLE GRAVEgSMALL LETTER R WITH DOUBLE GRAVEgCAPITAL LETTER R WITH INVER",
    "TED BREVEgSMALL LETTER R WITH INVERTED BREVEgCAPITAL LETTER U WITH DOUBLE GRAVEgSMALL LETTER",
    " U WITH DOUBLE GRAVEgCAPITAL LETTER U WITH INVERTED BREVEgSMALL LETTER U WITH INVERTED BREVE",
    "gCAPITAL LETTER S WITH COMMA BELOWgSMALL LETTER S WITH COMMA BELOWgCAPITAL LETTER T WITH COM",
    "MA BELOWgSMALL LETTER T WITH COMMA BELOWgCAPITAL LETTER YOGHgSMALL LETTER YOGHgCAPITAL LETTE",
    "R H WITH CARONgSMALL LETTER H WITH CARONgCAPITAL LETTER N WITH LONG RIGHT LEGgSMALL LETTER D",
    " WITH CURLgCAPITAL LETTER OUgSMALL LETTER OUgCAPITAL LETTER Z WITH HOOKgSMALL LETTER Z WITH ",
    "HOOKgCAPITAL LETTER A WITH DOT ABOVEgSMALL LETTER A WITH DOT ABOVEgCAPITAL LETTER E WITH CED",
    "ILLAgSMALL LETTER E WITH CEDILLAgCAPITAL LETTER O WITH DIAERESIS AND MACRONgSMALL LETTER O W",
    "ITH DIAERESIS AND MACRONgCAPITAL LETTER O WITH TILDE AND MACRONgSMALL LETTER O WITH TILDE AN",
    "D MACRONgCAPITAL LETTER O WITH DOT ABOVEgSMALL LETTER O WITH DOT ABOVEgCAPITAL LETTER O WITH",
    " DOT ABOVE AND MACRONgSMALL LETTER O WITH DOT ABOVE AND MACRONgCAPITAL LETTER Y WITH MACRONg",
    "SMALL LETTER Y WITH MACRONtL WITH CURLtN WITH CURLtT WITH CURLtDOTLESS JuB DIGRAPHtQP DIGRAP",
    "HgCAPITAL LETTER A WITH STROKEvC WITH STROKEgSMALL LETTER C WITH STROKEgCAPITAL LETTER L WIT",
    "H BARvT WITH DIAGONAL STROKEgSMALL LETTER S WITH SWASH TAILtZ WITH SWASH TAILgCAPITAL LETTER",
    " GLOTTAL STOPgSMALL LETTER GLOTTAL STOPgCAPITAL LETTER B WITH STROKEvU BARvTURNED VvE WITH S",
    "TROKEgSMALL LETTER E WITH STROKEgCAPITAL LETTER J WITH STROKEgSMALL LETTER J WITH STROKEgCAP",
    "ITAL LETTER SMALL Q WITH HOOK TAILgSMALL LETTER Q WITH HOOK TAILgCAPITAL LETTER R WITH STROK",
    "EgSMALL LETTER R WITH STROKEgCAPITAL LETTER Y WITH STROKEgSMALL LETTER Y WITH STROKEtTURNED ",
    "AtALPHAtTURNED ALPHAtB WITH HOOKtOPEN OtC WITH CURLtD WITH TAILzbHOOKtREVERSED EtSCHWAy WITH",
    " HOOKtOPEN EtREVERSED OPEN Ezj WITH HOOKtCLOSED REVERSED OPEN EtDOTLESS J WITH STROKEtG WITH",
    " HOOKtSCRIPT GgLETTER SMALL CAPITAL GgSMALL LETTER GAMMAtRAMS HORNtTURNED HtH WITH HOOKuENG ",
    "WITH HOOKtI WITH STROKEuOTAgLETTER SMALL CAPITAL IgSMALL LETTER L WITH MIDDLE TILDEzbBELTzbR",
    "ETROFLEX HOOKuEZHtTURNED Mzc WITH LONG LEGtM WITH HOOKtN WITH LEFT HOOKzbRETROFLEX HOOKgLETT",
    "ER SMALL CAPITAL NgSMALL LETTER BARRED OgLETTER SMALL CAPITAL OEgSMALL LETTER CLOSED OMEGAtP",
    "HItTURNED Rzc WITH LONG LEGziHOOKtR WITH LONG LEGzbTAILzbFISHHOOKuEVERSED R WITH FISHHOOKgLE",
    "TTER SMALL CAPITAL RzcINVERTED RgSMALL LETTER S WITH HOOKtESHtDOTLESS J WITH STROKE AND HOOK",
    "tSQUAT REVERSED ESHtESH WITH CURLtTURNED Tu WITH RETROFLEX HOOKtU BARuPSILONtV WITH HOOKtTUR",
    "NED VzbWzbYgLETTER SMALL CAPITAL YgSMALL LETTER Z WITH RETROFLEX HOOKzbCURLtEZHw WITH CURLgL",
    "ETTER GLOTTAL STOPnPHARYNGEAL VOICED FRICATIVEnINVERTED GLOTTAL STOPnSTRETCHED CnBILABIAL CL",
    "ICKnSMALL CAPITAL BgSMALL LETTER CLOSED OPEN EgLETTER SMALL CAPITAL G WITH HOOKzcHgSMALL LET",
    "TER J WITH CROSSED-TAILtTURNED KgLETTER SMALL CAPITAL LgSMALL LETTER Q WITH HOOKgLETTER GLOT",
    "TAL STOP WITH STROKEnREVERSED GLOTTAL STOP WITH STROKEgSMALL LETTER DZ DIGRAPHuEZH DIGRAPHuZ",
    " DIGRAPH WITH CURLtTS DIGRAPHuESH DIGRAPHuC DIGRAPH WITH CURLtFENG DIGRAPHtLS DIGRAPHuZ DIGR",
    "APHgLETTER BILABIAL PERCUSSIVEpDENTAL PERCUSSIVEgSMALL LETTER TURNED H WITH FISHHOOKzq AND T",
    "AILaMODIFIER LETTER SMALL Hx WITH HOOKwJwRwTURNED Rzf WITH HOOKwCAPITAL INVERTED RwWwYqPRIME",
    "qDOUBLE PRIMEqTURNED COMMAqAPOSTROPHEqREVERSED COMMArIGHT HALF RINGqLEFT HALF RINGqGLOTTAL S",
    "TOPqREVERSED GLOTTAL STOPqLEFT ARROWHEADqRIGHT ARROWHEADqUP ARROWHEADqDOWN ARROWHEADqCIRCUMF",
    "LEX ACCENTaCARONaMODIFIER LETTER VERTICAL LINEqMACRONqACUTE ACCENTqGRAVE ACCENTqLOW VERTICAL",
    " LINEuMACRONuGRAVE ACCENTuACUTE ACCENTqTRIANGULAR COLONqHALF TRIANGULAR COLONqCENTRED RIGHT ",
    "HALF RINGyLEFT HALF RINGqUP TACKqDOWN TACKqPLUS SIGNqMINUS SIGNaBREVEaDOT ABOVEaRING ABOVEaO",
    "GONEKaSMALL TILDEaDOUBLE ACUTE ACCENTaMODIFIER LETTER RHOTIC HOOKqCROSS ACCENTqSMALL GAMMAwL",
    "wSwXwREVERSED GLOTTAL STOPqEXTRA-HIGH TONE BARqHIGH TONE BARqMID TONE BARqLOW TONE BARqEXTRA",
    "-LOW TONE BARqYIN DEPARTING TONE MARKrANG DEPARTING TONE MARKqVOICINGqUNASPIRATEDqDOUBLE APO",
    "STROPHEqLOW DOWN ARROWHEADuUP ARROWHEADuLEFT ARROWHEADuRIGHT ARROWHEADwNGqMIDDLE GRAVE ACCEN",
    "TxDOUBLE GRAVE ACCENTzfACUTE ACCENTqLOW TILDEqRAISED COLONqBEGIN HIGH TONEqEND HIGH TONEqBEG",
    "IN LOW TONEqEND LOW TONEqSHELFqOPEN SHELFqLOW LEFT ARROWaCOMBINING GRAVE ACCENTkACUTE ACCENT",
    "kCIRCUMFLEX ACCENTkTILDEkMACRONkOVERLINEkBREVEkDOT ABOVElIAERESISkHOOK ABOVEkRING ABOVEkDOUB",
    "LE ACUTE ACCENTkCARONkVERTICAL LINE ABOVEkDOUBLE VERTICAL LINE ABOVErGRAVE ACCENTkCANDRABIND",
    "UkINVERTED BREVEkTURNED COMMA ABOVEkCOMMA ABOVEkREVERSED COMMA ABOVEkCOMMA ABOVE RIGHTkGRAVE",
    " ACCENT BELOWkACUTE ACCENT BELOWkLEFT TACK BELOWkRIGHT TACK BELOWkLEFT ANGLE ABOVEkHORNkLEFT",
    " HALF RING BELOWkUP TACK BELOWkDOWN TACK BELOWkPLUS SIGN BELOWkMINUS SIGN BELOWkPALATALIZED ",
    "HOOK BELOWkRETROFLEX HOOK BELOWkDOT BELOWlIAERESIS BELOWkRING BELOWkCOMMA BELOWlEDILLAkOGONE",
    "KkVERTICAL LINE BELOWkBRIDGE BELOWkINVERTED DOUBLE ARCH BELOWkCARON BELOWlIRCUMFLEX ACCENT B",
    "ELOWkBREVE BELOWkINVERTED BREVE BELOWkTILDE BELOWkMACRON BELOWkLOW LINEkDOUBLE LOW LINEkTILD",
    "E OVERLAYkSHORT STROKE OVERLAYkLONG STROKE OVERLAYkSHORT SOLIDUS OVERLAYkLONG SOLIDUS OVERLA",
    "YkRIGHT HALF RING BELOWkINVERTED BRIDGE BELOWkSQUARE BELOWlEAGULL BELOWkX ABOVEkVERTICAL TIL",
    "DEkDOUBLE OVERLINEkGRAVE TONE MARKkACUTE TONE MARKkGREEK PERISPOMENIqKORONISqDIALYTIKA TONOS",
    "qYPOGEGRAMMENIkBRIDGE ABOVEkEQUALS SIGN BELOWkDOUBLE VERTICAL LINE BELOWkLEFT ANGLE BELOWkNO",
    "T TILDE ABOVEkHOMOTHETIC ABOVEkALMOST EQUAL TO ABOVEkLEFT RIGHT ARROW BELOWkUPWARDS ARROW BE",
    "LOWkGRAPHEME JOINERkRIGHT ARROWHEAD ABOVEkLEFT HALF RING ABOVEkFERMATAkX BELOWkLEFT ARROWHEA",
    "D BELOWkRIGHT ARROWHEAD BELOWzbAND UP ARROWHEAD BELOWqHALF RING ABOVEkDOT ABOVE RIGHTkASTERI",
    "SK BELOWkDOUBLE RING BELOWkZIGZAG ABOVEkDOUBLE BREVE BELOWwrMACRONx BELOWrTILDErINVERTED BRE",
    "VErRIGHTWARDS ARROW BELOWkLATIN SMALL LETTER AzeEzeIzeOzeUzeCzeDzeHzeMzeRzeTzeVzeXaGREEK CAP",
    "ITAL LETTER HETAgSMALL LETTER HETAgCAPITAL LETTER ARCHAIC SAMPIgSMALL LETTER ARCHAIC SAMPIgN",
    "UMERAL SIGNgLOWER NUMERAL SIGNgCAPITAL LETTER PAMPHYLIAN DIGAMMAgSMALL LETTER PAMPHYLIAN DIG",
    "AMMA..gYPOGEGRAMMENIgSMALL REVERSED LUNATE SIGMA SYMBOLmDOTTED LUNATE SIGMA SYMBOLmREVERSED ",
    "DOTTED LUNATE SIGMA SYMBOLgQUESTION MARKgCAPITAL LETTER YOT....gTONOSgDIALYTIKA TONOSgCAPITA",
    "L LETTER ALPHA WITH TONOSgANO TELEIAgCAPITAL LETTER EPSILON WITH TONOSwTA WITH TONOSvIOTA WI",
    "TH TONOS.vOMICRON WITH TONOS.vUPSILON WITH TONOSvOMEGA WITH TONOSgSMALL LETTER IOTA WITH DIA",
    "LYTIKA AND TONOSgCAPITAL LETTER ALPHAvBETAvGAMMAvDELTAvEPSILONvZETAvETAvTHETAvIOTAvKAPPAvLAM",
    "DAvMUvNUvXIvOMICRONvPIvRHO.vSIGMAvTAUvUPSILONvPHIvCHIvPSIvOMEGAvIOTA WITH DIALYTIKAvUPSILON ",
    "WITH DIALYTIKAgSMALL LETTER ALPHA WITH TONOStEPSILON WITH TONOSuTA WITH TONOStIOTA WITH TONO",
    "StUPSILON WITH DIALYTIKA AND TONOStALPHAtBETAtGAMMAtDELTAtEPSILONtZETAtETAtTHETAtIOTAtKAPPAt",
    "LAMDAtMUtNUtXItOMICRONtPItRHOtFINAL SIGMAtSIGMAtTAUtUPSILONtPHItCHItPSItOMEGAtIOTA WITH DIAL",
    "YTIKAtUPSILON WITH DIALYTIKAtOMICRON WITH TONOStUPSILON WITH TONOStOMEGA WITH TONOSgCAPITAL ",
    "KAI SYMBOLgBETA SYMBOLgTHETA SYMBOLgUPSILON WITH HOOK SYMBOLtACUTE AND HOOK SYMBOLtDIAERESIS",
    " AND HOOK SYMBOLgPHI SYMBOLhI SYMBOLgKAI SYMBOLgLETTER ARCHAIC KOPPAgSMALL LETTER ARCHAIC KO",
    "PPAgLETTER STIGMAgSMALL LETTER STIGMAgLETTER DIGAMMAgSMALL LETTER DIGAMMAgLETTER KOPPAgSMALL",
    " LETTER KOPPAgLETTER SAMPIgSMALL LETTER SAMPIaCOPTIC CAPITAL LETTER SHEIhSMALL LETTER SHEIhC",
    "APITAL LETTER FEIhSMALL LETTER FEIhCAPITAL LETTER KHEIhSMALL LETTER KHEIhCAPITAL LETTER HORI",
    "hSMALL LETTER HORIhCAPITAL LETTER GANGIAhSMALL LETTER GANGIAhCAPITAL LETTER SHIMAhSMALL LETT",
    "ER SHIMAhCAPITAL LETTER DEIhSMALL LETTER DEIaGREEK KAPPA SYMBOLgRHO SYMBOLgLUNATE SIGMA SYMB",
    "OLhETTER YOTgCAPITAL THETA SYMBOLgLUNATE EPSILON SYMBOLgREVERSED LUNATE EPSILON SYMBOLgCAPIT",
    "AL LETTER SHOgSMALL LETTER SHOgCAPITAL LUNATE SIGMA SYMBOLpETTER SANgSMALL LETTER SANgRHO WI",
    "TH STROKE SYMBOLgCAPITAL REVERSED LUNATE SIGMA SYMBOLoDOTTED LUNATE SIGMA SYMBOLoREVERSED DO",
    "TTED LUNATE SIGMA SYMBOLaCYRILLIC CAPITAL LETTER IE WITH GRAVEzaOyDJEyGJEyUKRAINIAN IEyDZEyB",
    "YELORUSSIAN-UKRAINIAN IyYIyJEyLJEyNJEyTSHEyKJEyI WITH GRAVEySHORT UyDZHEyAyBEyVEyGHEyDEyIEyZ",
    "HEzaEyIySHORT IyKAyELzaMzaNyOyPEyERzaSyTEyUyEFyHAyTSEyCHEySHAzbCHAyHARD SIGNyYERUySOFT SIGNy",
    "EyYUzaAjSMALL LETTER AwBEwVEwGHEwDEwIEwZHExEwIwSHORT IwKAwELxMxNwOwPEwERxSwTEwUwEFwHAwTSEwCH",
    "EwSHAyCHAwHARD SIGNwYERUwSOFT SIGNwEwYUxAwIE WITH GRAVExOwDJEwGJEwUKRAINIAN IEwDZEwBYELORUSS",
    "IAN-UKRAINIAN IwYIwJEwLJEwNJEwTSHEwKJEwI WITH GRAVEwSHORT UwDZHEjCAPITAL LETTER OMEGAjSMALL ",
    "LETTER OMEGAjCAPITAL LETTER YATjSMALL LETTER YATjCAPITAL LETTER IOTIFIED EjSMALL LETTER IOTI",
    "FIED EjCAPITAL LETTER LITTLE YUSjSMALL LETTER LITTLE YUSjCAPITAL LETTER IOTIFIED LITTLE YUSj",
    "SMALL LETTER IOTIFIED LITTLE YUSjCAPITAL LETTER BIG YUSjSMALL LETTER BIG YUSjCAPITAL LETTER ",
    "IOTIFIED BIG YUSjSMALL LETTER IOTIFIED BIG YUSjCAPITAL LETTER KSIjSMALL LETTER KSIjCAPITAL L",
    "ETTER PSIjSMALL LETTER PSIjCAPITAL LETTER FITAjSMALL LETTER FITAjCAPITAL LETTER IZHITSAjSMAL",
    "L LETTER IZHITSAjCAPITAL LETTER IZHITSA WITH DOUBLE GRAVE ACCENTjSMALL LETTER IZHITSA WITH D",
    "OUBLE GRAVE ACCENTjCAPITAL LETTER UKjSMALL LETTER UKjCAPITAL LETTER ROUND OMEGAjSMALL LETTER",
    " ROUND OMEGAjCAPITAL LETTER OMEGA WITH TITLOjSMALL LETTER OMEGA WITH TITLOjCAPITAL LETTER OT",
    "jSMALL LETTER OTjCAPITAL LETTER KOPPAjSMALL LETTER KOPPAjTHOUSANDS SIGNbOMBINING CYRILLIC TI",
    "TLOtPALATALIZATIONtDASIA PNEUMATAtPSILI PNEUMATAuOKRYTIEtHUNDRED THOUSANDS SIGNtMILLIONS SIG",
    "NbYRILLIC CAPITAL LETTER SHORT I WITH TAILjSMALL LETTER SHORT I WITH TAILjCAPITAL LETTER SEM",
    "ISOFT SIGNjSMALL LETTER SEMISOFT SIGNjCAPITAL LETTER ER WITH TICKjSMALL LETTER ER WITH TICKj",
    "CAPITAL LETTER GHE WITH UPTURNjSMALL LETTER GHE WITH UPTURNjCAPITAL LETTER GHE WITH STROKEjS",
    "MALL LETTER GHE WITH STROKEjCAPITAL LETTER GHE WITH MIDDLE HOOKjSMALL LETTER GHE WITH MIDDLE",
    " HOOKjCAPITAL LETTER ZHE WITH DESCENDERjSMALL LETTER ZHE WITH DESCENDERjCAPITAL LETTER ZE WI",
    "TH DESCENDERjSMALL LETTER ZE WITH DESCENDERjCAPITAL LETTER KA WITH DESCENDERjSMALL LETTER KA",
    " WITH DESCENDERjCAPITAL LETTER KA WITH VERTICAL STROKEjSMALL LETTER KA WITH VERTICAL STROKEj",
    "CAPITAL LETTER KA WITH STROKEjSMALL LETTER KA WITH STROKEjCAPITAL LETTER BASHKIR KAjSMALL LE",
    "TTER BASHKIR KAjCAPITAL LETTER EN WITH DESCENDERjSMALL LETTER EN WITH DESCENDERjCAPITAL LIGA",
    "TURE EN GHEjSMALL LIGATURE EN GHEjCAPITAL LETTER PE WITH MIDDLE HOOKjSMALL LETTER PE WITH MI",
    "DDLE HOOKjCAPITAL LETTER ABKHASIAN HAjSMALL LETTER ABKHASIAN HAjCAPITAL LETTER ES WITH DESCE",
    "NDERjSMALL LETTER ES WITH DESCENDERjCAPITAL LETTER TE WITH DESCENDERjSMALL LETTER TE WITH DE",
    "SCENDERjCAPITAL LETTER STRAIGHT UjSMALL LETTER STRAIGHT UjCAPITAL LETTER STRAIGHT U WITH STR",
    "OKEjSMALL LETTER STRAIGHT U WITH STROKEjCAPITAL LETTER HA WITH DESCENDERjSMALL LETTER HA WIT",
    "H DESCENDERjCAPITAL LIGATURE TE TSEjSMALL LIGATURE TE TSEjCAPITAL LETTER CHE WITH DESCENDERj",
    "SMALL LETTER CHE WITH DESCENDERjCAPITAL LETTER CHE WITH VERTICAL STROKEjSMALL LETTER CHE WIT",
    "H VERTICAL STROKEjCAPITAL LETTER SHHAjSMALL LETTER SHHAjCAPITAL LETTER ABKHASIAN CHEjSMALL L",
    "ETTER ABKHASIAN CHEjCAPITAL LETTER ABKHASIAN CHE WITH DESCENDERjSMALL LETTER ABKHASIAN CHE W",
    "ITH DESCENDERjLETTER PALOCHKAjCAPITAL LETTER ZHE WITH BREVEjSMALL LETTER ZHE WITH BREVEjCAPI",
    "TAL LETTER KA WITH HOOKjSMALL LETTER KA WITH HOOKjCAPITAL LETTER EL WITH TAILjSMALL LETTER E",
    "L WITH TAILjCAPITAL LETTER EN WITH HOOKjSMALL LETTER EN WITH HOOKjCAPITAL LETTER EN WITH TAI",
    "LjSMALL LETTER EN WITH TAILjCAPITAL LETTER KHAKASSIAN CHEjSMALL LETTER KHAKASSIAN CHEjCAPITA",
    "L LETTER EM WITH TAILjSMALL LETTER EM WITH TAILwPALOCHKAjCAPITAL LETTER A WITH BREVEjSMALL L",
    "ETTER A WITH BREVEjCAPITAL LETTER A WITH DIAERESISjSMALL LETTER A WITH DIAERESISjCAPITAL LIG",
    "ATURE A IEjSMALL LIGATURE A IEjCAPITAL LETTER IE WITH BREVEjSMALL LETTER IE WITH BREVEjCAPIT",
    "AL LETTER SCHWAjSMALL LETTER SCHWAjCAPITAL LETTER SCHWA WITH DIAERESISjSMALL LETTER SCHWA WI",
    "TH DIAERESISjCAPITAL LETTER ZHE WITH DIAERESISjSMALL LETTER ZHE WITH DIAERESISjCAPITAL LETTE",
    "R ZE WITH DIAERESISjSMALL LETTER ZE WITH DIAERESISjCAPITAL LETTER ABKHASIAN DZEjSMALL LETTER",
    " ABKHASIAN DZEjCAPITAL LETTER I WITH MACRONjSMALL LETTER I WITH MACRONjCAPITAL LETTER I WITH",
    " DIAERESISjSMALL LETTER I WITH DIAERESISjCAPITAL LETTER O WITH DIAERESISjSMALL LETTER O WITH",
    " DIAERESISjCAPITAL LETTER BARRED OjSMALL LETTER BARRED OjCAPITAL LETTER BARRED O WITH DIAERE",
    "SISjSMALL LETTER BARRED O WITH DIAERESISjCAPITAL LETTER E WITH DIAERESISjSMALL LETTER E WITH",
    " DIAERESISjCAPITAL LETTER U WITH MACRONjSMALL LETTER U WITH MACRONjCAPITAL LETTER U WITH DIA",
    "ERESISjSMALL LETTER U WITH DIAERESISjCAPITAL LETTER U WITH DOUBLE ACUTEjSMALL LETTER U WITH ",
    "DOUBLE ACUTEjCAPITAL LETTER CHE WITH DIAERESISjSMALL LETTER CHE WITH DIAERESISjCAPITAL LETTE",
    "R GHE WITH DESCENDERjSMALL LETTER GHE WITH DESCENDERjCAPITAL LETTER YERU WITH DIAERESISjSMAL",
    "L LETTER YERU WITH DIAERESISjCAPITAL LETTER GHE WITH STROKE AND HOOKjSMALL LETTER GHE WITH S",
    "TROKE AND HOOKjCAPITAL LETTER HA WITH HOOKjSMALL LETTER HA WITH HOOKjCAPITAL LETTER HA WITH ",
    "STROKEjSMALL LETTER HA WITH STROKEjCAPITAL LETTER KOMI DEjSMALL LETTER KOMI DEjCAPITAL LETTE",
    "R KOMI DJEjSMALL LETTER KOMI DJEjCAPITAL LETTER KOMI ZJEjSMALL LETTER KOMI ZJEjCAPITAL LETTE",
    "R KOMI DZJEjSMALL LETTER KOMI DZJEjCAPITAL LETTER KOMI LJEjSMALL LETTER KOMI LJEjCAPITAL LET",
    "TER KOMI NJEjSMALL LETTER KOMI NJEjCAPITAL LETTER KOMI SJEjSMALL LETTER KOMI SJEjCAPITAL LET",
    "TER KOMI TJEjSMALL LETTER KOMI TJEjCAPITAL LETTER REVERSED ZEjSMALL LETTER REVERSED ZEjCAPIT",
    "AL LETTER EL WITH HOOKjSMALL LETTER EL WITH HOOKjCAPITAL LETTER LHAjSMALL LETTER LHAjCAPITAL",
    " LETTER RHAjSMALL LETTER RHAjCAPITAL LETTER YAEjSMALL LETTER YAEjCAPITAL LETTER QAjSMALL LET",
    "TER QAjCAPITAL LETTER WEjSMALL LETTER WEjCAPITAL LETTER ALEUT KAjSMALL LETTER ALEUT KAjCAPIT",
    "AL LETTER EL WITH MIDDLE HOOKjSMALL LETTER EL WITH MIDDLE HOOKjCAPITAL LETTER EN WITH MIDDLE",
    " HOOKjSMALL LETTER EN WITH MIDDLE HOOKjCAPITAL LETTER PE WITH DESCENDERjSMALL LETTER PE WITH",
    " DESCENDERjCAPITAL LETTER SHHA WITH DESCENDERjSMALL LETTER SHHA WITH DESCENDERjCAPITAL LETTE",
    "R EN WITH LEFT HOOKjSMALL LETTER EN WITH LEFT HOOKjCAPITAL LETTER DZZHEjSMALL LETTER DZZHEjC",
    "APITAL LETTER DCHEjSMALL LETTER DCHEjCAPITAL LETTER EL WITH DESCENDERjSMALL LETTER EL WITH D",
    "ESCENDER.aARMENIAN CAPITAL LETTER AYByBENyGIMyDAyECHyZAyEHzaTyTOyZHEyINIyLIWNyXEHyCAyKENyHOy",
    "JAyGHADyCHEHyMENyYIyNOWySHAyVOyCHAyPEHyJHEHyRAySEHyVEWyTIWNyREHyCOyYIWNyPIWRyKEHyOHyFEH..jMO",
    "DIFIER LETTER LEFT HALF RINGjAPOSTROPHEjEMPHASIS MARKkXCLAMATION MARKjCOMMAjQUESTION MARKjAB",
    "BREVIATION MARKjSMALL LETTER TURNED AYBwAYBwBENwGIMwDAwECHwZAwEHxTwTOwZHEwINIwLIWNwXEHwCAwKE",
    "NwHOwJAwGHADwCHEHwMENwYIwNOWwSHAwVOwCHAwPEHwJHEHwRAwSEHwVEWwTIWNwREHwCOwYIWNwPIWRwKEHwOHwFEH",
    "qIGATURE ECH YIWNqETTER YI WITH STROKEjFULL STOPjHYPHEN..aRIGHT-FACING ARMENIAN ETERNITY SIG",
    "NaLEFT-FACING ARMENIAN ETERNITY SIGNaARMENIAN DRAM SIGN.aHEBREW ACCENT ETNAHTAoSEGOLpHALSHEL",
    "EToZAQEF QATANuGADOLoTIPEHAoREVIAoZARQAoPASHTAoYETIVoTEVIRoGERESHu MUQDAMrSHAYIMoQARNEY PARA",
    "oTELISHA GEDOLAoPAZERoATNAH HAFUKHoMUNAHpAHAPAKHpERKHAu KEFULAoDARGAoQADMAoTELISHA QETANAoYE",
    "RAH BEN YOMOoOLEoILUYoDEHIoZINORhMARK MASORA CIRCLEhPOINT SHEVAnHATAF SEGOLtPATAHtQAMATSoIRI",
    "QnTSEREnSEGOLnPATAHnQAMATSnHOLAMs HASER FOR VAVnQUBUTSnDAGESH OR MAPIQnMETEGiUNCTUATION MAQA",
    "FiOINT RAFEiUNCTUATION PASEQiOINT SHIN DOToIN DOTiUNCTUATION SOF PASUQhMARK UPPER DOTmLOWER ",
    "DOThPUNCTUATION NUN HAFUKHAiOINT QAMATS QATAN........hLETTER ALEFoBEToGIMELoDALEToHEoVAVoZAY",
    "INoHEToTEToYODoFINAL KAFoKAFoLAMEDoFINAL MEMoMEMoFINAL NUNoNUNoSAMEKHoAYINoFINAL PEoPEoFINAL",
    " TSADIoTSADIoQOFoRESHoSHINoTAV....hYOD TRIANGLEhLIGATURE YIDDISH DOUBLE VAVyVAV YODyDOUBLE Y",
    "ODhPUNCTUATION GERESHwSHAYIM...........aARABIC NUMBER SIGNhSIGN SANAHhFOOTNOTE MARKERhSIGN S",
    "AFHAoMVAThNUMBER MARK ABOVEg-INDIC CUBE ROOTnFOURTH ROOTg RAYg-INDIC PER MILLE SIGNrTEN THOU",
    "SAND SIGNbFGHANI SIGNbRABIC COMMAhDATE SEPARATORhPOETIC VERSE SIGNhSIGN MISRAmSALLALLAHOU AL",
    "AYHE WASSALLAMmALAYHE ASSALLAMmRAHMATULLAH ALAYHEoDI ALLAHOU ANHUmTAKHALLUSiMALL HIGH TAHsLI",
    "GATURE ALEF WITH LAM WITH YEHsZAINnFATHAnDAMMAnKASRAiEMICOLONhLETTER MARKhEND OF TEXT MARKhT",
    "RIPLE DOT PUNCTUATION MARKhQUESTION MARKhLETTER KASHMIRI YEHoHAMZAoALEF WITH MADDA ABOVEyHAM",
    "ZA ABOVEoWAW WITH HAMZA ABOVEoALEF WITH HAMZA BELOWoYEH WITH HAMZA ABOVEoALEFoBEHoTEH MARBUT",
    "ArpHEHoJEEMoHAHoKHAHoDALoTHALoREHoZAINoSEENpHEENpADoDADoTAHoZAHoAINoGHAINoKEHEH WITH TWO DOT",
    "S ABOVEzbHREE DOTS BELOWoFARSI YEH WITH INVERTED VzeTWO DOTS ABOVEzfHREE DOTS ABOVEhTATWEELh",
    "LETTER FEHoQAFoKAFoLAMoMEEMoNOONoHEHoWAWoALEF MAKSURAoYEHhFATHATANhDAMMATANhKASRATANhFATHAhD",
    "AMMAhKASRAhSHADDAiUKUNhMADDAH ABOVEhHAMZA ABOVEnBELOWhSUBSCRIPT ALEFhINVERTED DAMMAhMARK NOO",
    "N GHUNNAhZWARAKAYhVOWEL SIGN SMALL V ABOVEsINVERTED SMALL V ABOVEsDOT BELOWhREVERSED DAMMAhF",
    "ATHA WITH TWO DOTShWAVY HAMZA BELOWg-INDIC DIGIT ZEROtONEtTWOuHREEtFOURuIVEtSIXuEVENtEIGHTtN",
    "INEg PERCENT SIGNhDECIMAL SEPARATORhTHOUSANDS SEPARATORhFIVE POINTED STARhLETTER DOTLESS BEH",
    "wQAFoSUPERSCRIPT ALEFoALEF WASLAuITH WAVY HAMZA ABOVEzkBELOWoHIGH HAMZAy ALEFzaWAWoU WITH HA",
    "MZA ABOVEoHIGH HAMZA YEHoTTEHsEHoBEEHoTEH WITH RINGxTHREE DOTS ABOVE DOWNWARDSoPEHoTEHEHoBEH",
    "EHoHAH WITH HAMZA ABOVExTWO DOTS VERTICAL ABOVEoNYEHoDYEHoHAH WITH THREE DOTS ABOVEoTCHEHtEH",
    "oDDALpAL WITH RINGxDOT BELOWzh AND SMALL TAHqHALpDAHALpULpAL WITH THREE DOTS ABOVE DOWNWARDS",
    "xFOUR DOTS ABOVEoRREHpEH WITH SMALL VxRINGxDOT BELOWxSMALL V BELOWxDOT BELOW AND DOT ABOVExT",
    "WO DOTS ABOVEoJEHoREH WITH FOUR DOTS ABOVEoSEEN WITH DOT BELOW AND DOT ABOVEyTHREE DOTS BELO",
    "Wzp AND THREE DOTS ABOVEpAD WITH TWO DOTS BELOWyHREE DOTS ABOVEoTAH WITH THREE DOTS ABOVEoAI",
    "N WITH THREE DOTS ABOVEoDOTLESS FEHoFEH WITH DOT MOVED BELOWzcBELOWoVEHoFEH WITH THREE DOTS ",
    "BELOWoPEHEHoQAF WITH DOT ABOVExTHREE DOTS ABOVEoKEHEHoSWASH KAFoKAF WITH RINGxDOT ABOVEoNGoK",
    "AF WITH THREE DOTS BELOWoGAFr WITH RINGoNGOEHoGAF WITH TWO DOTS BELOWpUEHpAF WITH THREE DOTS",
    " ABOVEoLAM WITH SMALL VxDOT ABOVExTHREE DOTS ABOVEzjBELOWoNOON WITH DOT BELOWtGHUNNAoRNOONoN",
    "OON WITH RINGyTHREE DOTS ABOVEoHEH DOACHASHMEEoTCHEH WITH DOT ABOVEoHEH WITH YEH ABOVEsGOALw",
    " WITH HAMZA ABOVEoTEH MARBUTA GOALoWAW WITH RINGoKIRGHIZ OEoOEoUoYUoKIRGHIZ YUoWAW WITH TWO ",
    "DOTS ABOVEoVEoFARSI YEHoYEH WITH TAILxSMALL VoWAW WITH DOT ABOVEoEoYEH WITH THREE DOTS BELOW",
    "sBARREEy WITH HAMZA ABOVEhFULL STOPhLETTER AEhSMALL HIGH LIGATURE SAD WITH LAM WITH ALEF MAK",
    "SURAzcQAF WITH LAM WITH ALEF MAKSURAsMEEM INITIAL FORMsLAM ALEFsJEEMsTHREE DOTSsSEENhEND OF ",
    "AYAHhSTART OF RUB EL HIZBiMALL HIGH ROUNDED ZEROsUPRIGHT RECTANGULAR ZEROsDOTLESS HEAD OF KH",
    "AHsMEEM ISOLATED FORMnLOW SEENnHIGH MADDAnWAWnYEHnHIGH YEHsNOONhPLACE OF SAJDAHhEMPTY CENTRE",
    " LOW STOPuHIGH STOPhROUNDED HIGH STOP WITH FILLED CENTREhSMALL LOW MEEMhLETTER DAL WITH INVE",
    "RTED VoREH WITH INVERTED VaEXTENDED ARABIC-INDIC DIGIT ZEROzdONEzdTWOzeHREEzdFOURzeIVEzdSIXz",
    "eEVENzdEIGHTzdNINEaARABIC LETTER SHEEN WITH DOT BELOWoDAD WITH DOT BELOWoGHAIN WITH DOT BELO",
    "WhSIGN SINDHI AMPERSANDtPOSTPOSITION MENhLETTER HEH WITH INVERTED VaSYRIAC END OF PARAGRAPHh",
    "SUPRALINEAR FULL STOPjBLINEAR FULL STOPjPRALINEAR COLONjBLINEAR COLONhHORIZONTAL COLONhCOLON",
    " SKEWED LEFTuRIGHThSUPRALINEAR COLON SKEWED LEFTjBLINEAR COLON SKEWED RIGHThCONTRACTIONhHARK",
    "LEAN OBELUSqMETOBELUSqASTERISCUS.hABBREVIATION MARKhLETTER ALAPHoSUPERSCRIPT ALAPHoBETHoGAMA",
    "Lt GARSHUNIoDALATHpOTLESS DALATH RISHoHEoWAWoZAINoHETHoTETHs GARSHUNIoYUDHs HEoKAPHoLAMADHoM",
    "IMoNUNoSEMKATHoFINAL SEMKATHoEoPEoREVERSED PEoSADHEoQAPHoRISHoSHINoTAWoPERSIAN BHETHwGHAMALw",
    "DHALATHhPTHAHA ABOVEoBELOWoDOTTEDhZQAPHA ABOVEoBELOWoDOTTEDhRBASA ABOVEnBELOWhDOTTED ZLAMA H",
    "ORIZONTALuANGULARhHBASA ABOVEnBELOWm-ESASA DOTTEDhESASA ABOVEnBELOWhRWAHAhFEMININE DOThQUSHS",
    "HAYAhRUKKAKHAhTWO VERTICAL DOTS ABOVEzaBELOWiHREE DOTS ABOVEsBELOWhOBLIQUE LINE ABOVEuBELOWh",
    "MUSIChBARREKH..hLETTER SOGDIAN ZHAINwKHAPHwFEaARABIC LETTER BEH WITH THREE DOTS HORIZONTALLY",
    " BELOWxDOT BELOW AND THREE DOTS ABOVExTHREE DOTS POINTING UPWARDS BELOWzzg AND TWO DOTS ABOV",
    "EyWO DOTS BELOW AND DOT ABOVExINVERTED SMALL V BELOWxSMALL VoHAH WITH TWO DOTS ABOVEyHREE DO",
    "TS POINTING UPWARDS BELOWoDAL WITH TWO DOTS VERTICALLY BELOW AND SMALL TAHxINVERTED SMALL V ",
    "BELOWoREH WITH STROKEoSEEN WITH FOUR DOTS ABOVEoAIN WITH TWO DOTS ABOVEyHREE DOTS POINTING D",
    "OWNWARDS ABOVEyWO DOTS VERTICALLY ABOVEoFEH WITH TWO DOTS BELOWyHREE DOTS POINTING UPWARDS B",
    "ELOWoKEHEH WITH DOT ABOVEzaTHREE DOTS ABOVEzlPOINTING UPWARDS BELOWoMEEM WITH DOT ABOVEzdBEL",
    "OWoNOON WITH TWO DOTS BELOWySMALL TAHzfVoLAM WITH BARoREH WITH TWO DOTS VERTICALLY ABOVExHAM",
    "ZA ABOVEoSEEN WITH TWO DOTS VERTICALLY ABOVEoHAH WITH SMALL ARABIC LETTER TAH BELOWzwAND TWO",
    " DOTSoSEEN WITH SMALL ARABIC LETTER TAH AND TWO DOTSoREH WITH SMALL ARABIC LETTER TAH AND TW",
    "O DOTSoHAH WITH SMALL ARABIC LETTER TAH ABOVEoALEF WITH EXTENDED ARABIC-INDIC DIGIT TWO ABOV",
    "EzzdHREE ABOVEoFARSI YEH WITH EXTENDED ARABIC-INDIC DIGIT TWO ABOVEzziHREE ABOVEzzhFOUR BELO",
    "WoWAW WITH EXTENDED ARABIC-INDIC DIGIT TWO ABOVEzzcHREE ABOVEoYEH BARREE WITH EXTENDED ARABI",
    "C-INDIC DIGIT TWO ABOVEzzjHREE ABOVEoHAH WITH EXTENDED ARABIC-INDIC DIGIT FOUR BELOWoSEEN WI",
    "TH EXTENDED ARABIC-INDIC DIGIT FOUR ABOVEyINVERTED VoKAF WITH TWO DOTS ABOVEaTHAANA LETTER H",
    "AAoSHAVIYANIoNOONUoRAAoBAAoLHAVIYANIoKAAFUoALIFUoVAAVUoMEEMUoFAAFUoDHAALUoTHAAoLAAMUoGAAFUpN",
    "AVIYANIoSEENUoDAVIYANIoZAVIYANIoTAVIYANIoYAAoPAVIYANIoJAVIYANIoCHAVIYANIoTTAAoHHAAoKHAAoTHAA",
    "LUoZAAoSHEENUpAADHUoDAADHUoTOoZOoAINUoGHAINUoQAAFUoWAAVUhABAFILIiABAAFILIhIBIFILIhEEBEEFILIh",
    "UBUFILIhOOBOOFILIhEBEFILIiYBEYFILIhOBOFILIiABOAFILIhSUKUNhLETTER NAA..............aNKO DIGIT",
    " ZEROkONEkTWOlHREEkFOURlIVEkSIXlEVENkEIGHTkNINEeLETTER AlEElIlElUlOOmlDAGBASINNAlNlBAlPAlTAl",
    "JAlCHAlDAlRAmRAlSAlGBAlFAlKAlLAlNA WOLOSOlMAlNYAmAlHAlWAlYAlNYA WOLOSOlJONA JAqCHAqRAeCOMBIN",
    "ING SHORT HIGH TONEuLOW TONEuRISING TONEoLONG DESCENDING TONEtHIGH TONEtLOW TONEtRISING TONE",
    "oNASALIZATION MARKoDOUBLE DOT ABOVEeHIGH TONE APOSTROPHEeLOW TONE APOSTROPHEeSYMBOL OO DENNE",
    "NlGBAKURUNENeCOMMAeEXCLAMATION MARKeLAJANYALAN..eDANTAYALANfOROME SIGNeTAMAN SIGNaSAMARITAN ",
    "LETTER ALAFrBITrGAMANrDALATrIYrBAArZENrITrTITrYUTrKAAFrLABATrMIMrNUNrSINGAATrINrFIrTSAADIYrQ",
    "UFrRISHrSHANrTAAFkMARK INr-ALAFpOCCLUSIONpDAGESHlODIFIER LETTER EPENTHETIC YUTlARK EPENTHETI",
    "C YUTkVOWEL SIGN LONG EvEvOVERLONG AAvLONG AAvAAvOVERLONG AvLONG AvAkMODIFIER LETTER SHORT A",
    "kVOWEL SIGN SHORT AvLONG UvUkMODIFIER LETTER IkVOWEL SIGN LONG IvIvOvSUKUNkMARK NEQUDAA..kPU",
    "NCTUATION NEQUDAAwAFSAAQxNGEDwBAUwATMAAUwSHIYYAALAAkABBREVIATION MARKkPUNCTUATION MELODIC QI",
    "TSAwZIQAAwQITSAwZAEFwTURUwARKAANUwSOF MASHFAATwANNAAU.aMANDAIC LETTER HALQApABqGqDqHpUSHENNA",
    "pAZpITpATTqKSArqLqMqNqSpINpAPqSZqQqRqSHqTpDUSHENNApKADpAINiAFFRICATION MARKiVOCALIZATION MAR",
    "KiGEMINATION MARK..iPUNCTUATION.aSYRIAC LETTER MALAYALAM NGAyJAyNYAyTTAyNNAzbNAyBHAyRAyLLAzb",
    "LAySSA.....aARABIC LETTER ALEF WITH ATTACHED FATHAziTOP RIGHT FATHAyRIGHT MIDDLE STROKEyLEFT",
    " MIDDLE STROKEyATTACHED KASRAziBOTTOM RIGHT KASRAziROUND DOT ABOVEzjIGHT ROUND DOTziLEFT ROU",
    "ND DOTziROUND DOT BELOWyDOT ABOVEyATTACHED TOP RIGHT FATHA AND DOT ABOVEyRIGHT MIDDLE STROKE",
    " AND DOT ABOVEyATTACHED BOTTOM RIGHT KASRA AND DOT ABOVEziTOP RIGHT FATHA AND LEFT RINGyRIGH",
    "T MIDDLE STROKE AND LEFT RINGyATTACHED BOTTOM RIGHT KASRA AND LEFT RINGziRIGHT HAMZAziLEFT H",
    "AMZAhTATWEEL WITH OVERSTRUCK HAMZAzgWAWuTWO DOTS BELOWhLETTER THIN YEHhBASELINE ROUND DOThRA",
    "ISED ROUND DOThLETTER NOON WITH INVERTED SMALL VoHAH WITH INVERTED SMALL V BELOWoTAH WITH DO",
    "T BELOWxTHREE DOTS BELOWoKEHEH WITH TWO DOTS VERTICALLY BELOWhVERTICAL TAIL.hPOUND MARK ABOV",
    "EiIASTRE MARK ABOVE......hSMALL HIGH WORD AL-JUZnLOW WORD ISHMAAMxMAALAwTASHEELhMADDA WAAJIB",
    "hSUPERSCRIPT ALEF MOKHASSAShDOUBLED MADDAhHALF MADDA OVER MADDAhLETTER BEH WITH SMALL V BELO",
    "WxHAMZA ABOVEoJEEM WITH TWO DOTS ABOVEoTAH WITH TWO DOTS ABOVEoFEH WITH DOT BELOW AND THREE ",
    "DOTS ABOVEoQAF WITH DOT BELOWoLAM WITH DOUBLE BARoMEEM WITH THREE DOTS ABOVEoYEH WITH TWO DO",
    "TS BELOW AND HAMZA ABOVEzrDOT ABOVEoREH WITH LOOPoWAW WITH DOT WITHINoROHINGYA YEHoLOW ALEFo",
    "DAL WITH THREE DOTS BELOWoSAD WITH THREE DOTS BELOWoGAF WITH INVERTED STROKEoSTRAIGHT WAWoZA",
    "IN WITH INVERTED V ABOVEoAIN WITH THREE DOTS BELOWoKAF WITH DOT BELOWoQAF WITH DOT BELOW AND",
    " NO DOTS ABOVEoBEH WITH SMALL MEEM ABOVEoPEH WITH SMALL MEEM ABOVEoTEH WITH SMALL TEH ABOVEo",
    "REH WITH SMALL NOON ABOVEoYEH WITH TWO DOTS BELOW AND SMALL NOON ABOVEoAFRICAN FEHwQAFwNOONo",
    "PEH WITH SMALL VoTEH WITH SMALL VpTEH WITH SMALL VpCHEH WITH SMALL VoKEHEH WITH SMALL VoGHAI",
    "N WITH THREE DOTS ABOVEoAFRICAN QAF WITH THREE DOTS ABOVEoJEEM WITH THREE DOTS ABOVEzkBELOWo",
    "LAM WITH SMALL ARABIC LETTER TAH ABOVEoGRAFhSMALL FARSI YEHnHIGH FARSI YEHsYEH BARREE WITH T",
    "WO DOTS BELOWsWORD SAHsZAHhLARGE ROUND DOT ABOVExBELOWhSUKUN BELOWhLARGE CIRCLE BELOWnROUND ",
    "DOT INSIDE CIRCLE BELOWhSMALL LOW WAWnHIGH WORD AR-RUBsSADsAINsQAFsNOON WITH KASRAnLOW NOON ",
    "WITH KASRAnHIGH WORD ATH-THALATHAyS-SAJDAyN-NISFxSAKTAxQIFxWAQFAsFOOTNOTE MARKERsSIGN SAFHAh",
    "DISPUTED END OF AYAHhTURNED DAMMA BELOWhCURLY FATHAnDAMMAnKASRAnFATHATANnDAMMATANnKASRATANhT",
    "ONE ONE DOT ABOVEmTWO DOTS ABOVEmLOOP ABOVEmONE DOT BELOWmTWO DOTS BELOWmLOOP BELOWhOPEN FAT",
    "HATANmDAMMATANmKASRATANhSMALL HIGH WAWhFATHA WITH RINGsDOT ABOVEhKASRA WITH DOT BELOWhLEFT A",
    "RROWHEAD ABOVEhRIGHT ARROWHEAD ABOVEhLEFT ARROWHEAD BELOWhRIGHT ARROWHEAD BELOWhDOUBLE RIGHT",
    " ARROWHEAD ABOVEzk WITH DOThRIGHT ARROWHEAD ABOVE WITH DOThDAMMA WITH DOThMARK SIDEWAYS NOON",
    " GHUNNAaDEVANAGARI SIGN INVERTED CANDRABINDUqCANDRABINDUqANUSVARAqVISARGAlLETTER SHORT AsAtA",
    "sItIsUtUsVOCALIC RzbLsCANDRA EsSHORT EsEsAIsCANDRA OsSHORT OsOsAUsKAtHAsGAtHAsNGAsCAtHAsJAtH",
    "AsNYAsTTAuHAsDDAuHAsNNAsTAtHAsDAtHAsNAtNNAsPAtHAsBAtHAsMAsYAsRAtRAsLAtLAuLAsVAsSHAtSAtAsHAlV",
    "OWEL SIGN OExOElSIGN NUKTAqAVAGRAHAlVOWEL SIGN AAwIxIwUxUwVOCALIC RzgRwCANDRA EwSHORT EwEwAI",
    "wCANDRA OwSHORT OwOwAUlSIGN VIRAMAlVOWEL SIGN PRISHTHAMATRA EwAWlOMlSTRESS SIGN UDATTAxANUDA",
    "TTAlGRAVE ACCENTlACUTE ACCENTlVOWEL SIGN CANDRA LONG EwUExUElLETTER QAsKHHAsGHHAsZAsDDDHAsRH",
    "AsFAsYYAsVOCALIC RRzbLLlVOWEL SIGN VOCALIC LzgLlDANDAmOUBLE DANDAmIGIT ZEROrONErTWOsHREErFOU",
    "RsIVErSIXsEVENrEIGHTrNINElABBREVIATION SIGNlSIGN HIGH SPACING DOTlLETTER CANDRA AsOEtOEsAWsU",
    "EtUEsMARWARI DDAsZHAsHEAVY YAsGGAsJJAsGLOTTAL STOPsDDDAsBBAaBENGALI ANJIiSIGN CANDRABINDUnAN",
    "USVARAnVISARGA.iLETTER AqApIqIpUqUpVOCALIC RxL..pEpAI..pOpAUpKAqHApGAqHApNGApCAqHApJAqHApNYA",
    "pTTArHApDDArHApNNApTAqHApDAqHApNA.pPAqHApBAqHApMApYApRA.pLA...pSHAqSAqApHA..iSIGN NUKTAnAVAG",
    "RAHAiVOWEL SIGN AAtIuItUuUtVOCALIC RzdR..tEtAI..tOtAUiSIGN VIRAMAiLETTER KHANDA TA........iA",
    "U LENGTH MARK....iLETTER RRAqHA.pYYApVOCALIC RRxLLiVOWEL SIGN VOCALIC LzdL..iDIGIT ZEROoONEo",
    "TWOpHREEoFOURpIVEoSIXpEVENoEIGHToNINEiLETTER RA WITH MIDDLE DIAGONALxLOWER DIAGONALiRUPEE MA",
    "RKoSIGNiCURRENCY NUMERATOR ONEzcTWOzdHREEzcFOURzcONE LESS THAN THE DENOMINATORrDENOMINATOR S",
    "IXTEENiISSHARiGANDA MARKiLETTER VEDIC ANUSVARAiABBREVIATION SIGNiSANDHI MARK..aGURMUKHI SIGN",
    " ADAK BINDIoBINDIoVISARGA.jLETTER ArAqIrIqUrU....qEEqAI..qOOqAUqKArHAqGArHAqNGAqCArHAqJArHAq",
    "NYAqTTAsHAqDDAsHAqNNAqTArHAqDArHAqNA.qPArHAqBArHAqMAqYAqRA.qLArLA.qVAqSHA.rAqHA..jSIGN NUKTA",
    ".jVOWEL SIGN AAuIvIuUvU....uEEuAI..uOOuAUjSIGN VIRAMA...oUDAAT.......jLETTER KHHAqGHHAqZAqRR",
    "A.qFA.......jDIGIT ZEROpONEpTWOqHREEpFOURqIVEpSIXqEVENpEIGHTpNINEjTIPPIjADDAKjIRIjURAjEK ONK",
    "ARjSIGN YAKASHjABBREVIATION SIGN..........cJARATI SIGN CANDRABINDUoANUSVARAoVISARGA.jLETTER ",
    "ArAqIrIqUrUqVOCALIC RyLjVOWEL CANDRA E.jLETTER EqAIjVOWEL CANDRA O.jLETTER OqAUqKArHAqGArHAq",
    "NGAqCArHAqJArHAqNYAqTTAsHAqDDAsHAqNNAqTArHAqDArHAqNA.qPArHAqBArHAqMAqYAqRA.qLArLA.qVAqSHArSA",
    "rAqHA..jSIGN NUKTAoAVAGRAHAjVOWEL SIGN AAuIvIuUvUuVOCALIC RzeRuCANDRA E.uEuAIuCANDRA O.uOuAU",
    "jSIGN VIRAMA..jOM...............jLETTER VOCALIC RRyLLjVOWEL SIGN VOCALIC LzeL..jDIGIT ZEROpO",
    "NEpTWOqHREEpFOURqIVEpSIXqEVENpEIGHTpNINEjABBREVIATION SIGNjRUPEE SIGN.......jLETTER ZHAjSIGN",
    " SUKUNpHADDAoMADDAHoTHREE-DOT NUKTA ABOVEoCIRCLE NUKTA ABOVEoTWO-CIRCLE NUKTA ABOVE.aORIYA S",
    "IGN CANDRABINDUlANUSVARAlVISARGA.gLETTER AoAnIoInUoUnVOCALIC RvL..nEnAI..nOnAUnKAoHAnGAoHAnN",
    "GAnCAoHAnJAoHAnNYAnTTApHAnDDApHAnNNAnTAoHAnDAoHAnNA.nPAoHAnBAoHAnMAnYAnRA.nLAoLA.nVAnSHAoSAo",
    "AnHA..gSIGN NUKTAlAVAGRAHAgVOWEL SIGN AArIsIrUsUrVOCALIC RzbR..rErAI..rOrAUgSIGN VIRAMA.....",
    "..lOVERLINEgAI LENGTH MARKhU LENGTH MARK....gLETTER RRAoHA.nYYAnVOCALIC RRvLLgVOWEL SIGN VOC",
    "ALIC LzbL..gDIGIT ZEROmONEmTWOnHREEmFOURnIVEmSIXnEVENmEIGHTmNINEgISSHARgLETTER WAgFRACTION O",
    "NE QUARTERtHALFpTHREE QUARTERSpONE SIXTEENTHtEIGHTHpTHREE SIXTEENTHS..........aTAMIL SIGN AN",
    "USVARAlVISARGA.gLETTER AoAnIoInUoU...nEoEnAI.nOoOnAUnKA...nNGAnCA.nJA.nNYAnTTA...nNNAnTA...n",
    "NAoNNAnPA...nMAnYAnRAoRAnLAoLApLAnVAnSHAoSAoAnHA....gVOWEL SIGN AArIsIrUsU...rEsErAI.rOsOrAU",
    "gSIGN VIRAMA..gOM......gAU LENGTH MARK..............gDIGIT ZEROmONEmTWOnHREEmFOURnIVEmSIXnEV",
    "ENmEIGHTmNINEgNUMBER TENnONE HUNDREDrTHOUSANDgDAY SIGNgMONTH SIGNgYEAR SIGNgDEBIT SIGNgCREDI",
    "T SIGNgAS ABOVE SIGNgRUPEE SIGNgNUMBER SIGN.....bELUGU SIGN COMBINING CANDRABINDU ABOVEnANDR",
    "ABINDUmANUSVARAmVISARGAmCOMBINING ANUSVARA ABOVEhLETTER ApAoIpIoUpUoVOCALIC RwL.oEpEoAI.oOpO",
    "oAUoKApHAoGApHAoNGAoCApHAoJApHAoNYAoTTAqHAoDDAqHAoNNAoTApHAoDApHAoNA.oPApHAoBApHAoMAoYAoRApR",
    "AoLApLAqLAoVAoSHApSApAoHA..hSIGN NUKTAmAVAGRAHAhVOWEL SIGN AAsItIsUtUsVOCALIC RzcR.sEtEsAI.s",
    "OtOsAUhSIGN VIRAMA.......hLENGTH MARKhAI LENGTH MARK.hLETTER TSAoDZAoRRRA..oNAKAARA POLLU..o",
    "VOCALIC RRwLLhVOWEL SIGN VOCALIC LzcL..hDIGIT ZEROnONEnTWOoHREEnFOURoIVEnSIXoEVENnEIGHTnNINE",
    ".......hSIGN SIDDHAMhFRACTION DIGIT ZERO FOR ODD POWERS OF FOURwONE FOR ODD POWERS OF FOURwT",
    "WO FOR ODD POWERS OF FOURxHREE FOR ODD POWERS OF FOURwONE FOR EVEN POWERS OF FOURwTWO FOR EV",
    "EN POWERS OF FOURxHREE FOR EVEN POWERS OF FOURhSIGN TUUMUaKANNADA SIGN SPACING CANDRABINDUnC",
    "ANDRABINDUnANUSVARAnVISARGAnSIDDHAMiLETTER AqApIqIpUqUpVOCALIC RxL.pEqEpAI.pOqOpAUpKAqHApGAq",
    "HApNGApCAqHApJAqHApNYApTTArHApDDArHApNNApTAqHApDAqHApNA.pPAqHApBAqHApMApYApRAqRApLAqLA.pVApS",
    "HAqSAqApHA..iSIGN NUKTAnAVAGRAHAiVOWEL SIGN AAtIuItUuUtVOCALIC RzdR.tEuEtAI.tOuOtAUiSIGN VIR",
    "AMA.......iLENGTH MARKiAI LENGTH MARK......iLETTER NAKAARA POLLUpFA.pVOCALIC RRxLLiVOWEL SIG",
    "N VOCALIC LzdL..iDIGIT ZEROoONEoTWOpHREEoFOURpIVEoSIXpEVENoEIGHToNINE.iSIGN JIHVAMULIYAnUPAD",
    "HMANIYA.............aMALAYALAM SIGN COMBINING ANUSVARA ABOVEqANDRABINDUpANUSVARApVISARGAkLET",
    "TER VEDIC ANUSVARArAsArIsIrUsUrVOCALIC RzaL.rEsErAI.rOsOrAUrKAsHArGAsHArNGArCAsHArJAsHArNYAr",
    "TTAtHArDDAtHArNNArTAsHArDAsHArNAsNNArPAsHArBAsHArMArYArRAsRArLAsLAtLArVArSHAsSAsArHArTTTAkSI",
    "GN VERTICAL BAR VIRAMApCIRCULAR VIRAMApAVAGRAHAkVOWEL SIGN AAvIwIvUwUvVOCALIC RzfR.vEwEvAI.v",
    "OwOvAUkSIGN VIRAMAkLETTER DOT REPHkSIGN PARA....kLETTER CHILLU MyYyLLLkAU LENGTH MARKkFRACTI",
    "ON ONE ONE-HUNDRED-AND-SIXTIETHxFORTIETHtTHREE EIGHTIETHStONE TWENTIETHyENTHtTHREE TWENTIETH",
    "StONE FIFTHkLETTER ARCHAIC IIrVOCALIC RRzaLLkVOWEL SIGN VOCALIC LzfL..kDIGIT ZEROqONEqTWOrHR",
    "EEqFOURrIVEqSIXrEVENqEIGHTqNINEkNUMBER TENrONE HUNDREDvTHOUSANDkFRACTION ONE QUARTERxHALFtTH",
    "REE QUARTERStONE SIXTEENTHxEIGHTHtTHREE SIXTEENTHSkDATE MARKkLETTER CHILLU NNzayRRyLzaLyK.aS",
    "INHALA SIGN CANDRABINDUnANUSVARAYAnVISARGAYA.iLETTER AYANNAqAYANNAqEYANNArEYANNApIYANNAqIYAN",
    "NApUYANNAqUYANNApIRUYANNAsUYANNAqLUYANNAsUYANNApEYANNAqEYANNApAIYANNApOYANNAqOYANNApAUYANNA.",
    "..qLPAPRAANA KAYANNApMAHAAPRAANA KAYANNApALPAPRAANA GAYANNApMAHAAPRAANA GAYANNApKANTAJA NAAS",
    "IKYAYApSANYAKA GAYANNApALPAPRAANA CAYANNApMAHAAPRAANA CAYANNApALPAPRAANA JAYANNApMAHAAPRAANA",
    " JAYANNApTAALUJA NAASIKYAYAxSANYOOGA NAAKSIKYAYApSANYAKA JAYANNApALPAPRAANA TTAYANNApMAHAAPR",
    "AANA TTAYANNApALPAPRAANA DDAYANNApMAHAAPRAANA DDAYANNAqUURDHAJA NAYANNApSANYAKA DDAYANNApALP",
    "APRAANA TAYANNApMAHAAPRAANA TAYANNApALPAPRAANA DAYANNApMAHAAPRAANA DAYANNApDANTAJA NAYANNA.p",
    "SANYAKA DAYANNApALPAPRAANA PAYANNApMAHAAPRAANA PAYANNApALPAPRAANA BAYANNApMAHAAPRAANA BAYANN",
    "ArYANNApAMBA BAYANNApYAYANNApRAYANNA.pDANTAJA LAYANNA..pVAYANNApTAALUJA SAYANNApMUURDHAJA SA",
    "YANNApDANTAJA SAYANNApHAYANNApMUURDHAJA LAYANNApFAYANNA...iSIGN AL-LAKUNA....iVOWEL SIGN AEL",
    "A-PILLAtKETTI AEDA-PILLAtDIGA AEDA-PILLAtKETTI IS-PILLAtDIGA IS-PILLAtKETTI PAA-PILLA.tDIGA ",
    "PAA-PILLA.tGAETTA-PILLAtKOMBUVAtDIGA KOMBUVAtKOMBU DEKAyVA HAA AELA-PILLAzgDIGA AELA-PILLAzg",
    "GAYANUKITTAtGAYANUKITTA......iLITH DIGIT ZEROtONEtTWOuHREEtFOURuIVEtSIXuEVENtEIGHTtNINE..iVO",
    "WEL SIGN DIGA GAETTA-PILLAzbYANUKITTAiPUNCTUATION KUNDDALIYA............aTHAI CHARACTER KO K",
    "AIqHO KHAIvUATvWAIvONtRAKHANGpNGO NGUpCHO CHANvINGvANGpSO SOpCHO CHOEpYO YINGpDO CHADApTO PA",
    "TAKqHO THANtNANGMONTHOtPHUTHAOpNO NENpDO DEKpTO TAOqHO THUNGvAHANvONGpNO NUpBO BAIMAIpPO PLA",
    "qHO PHUNGpFO FApPHO PHANpFO FANpPHO SAMPHAOpMO MApYO YAKpRO RUAqUpLO LINGqUpWO WAENpSO SALAs",
    "RUSIsSUApHO HIPpLO CHULApO ANGpHO NOKHUKpPAIYANNOIpSARA ApMAI HAN-AKATpSARA AAvMuIvIuUEwEvvU",
    "pPHINTHU....gURRENCY SYMBOL BAHTgHARACTER SARA EuAEuOuAI MAIMUANzcALAIpLAKKHANGYAOpMAIYAMOKs",
    "TAIKHUs EKtTHOuRItCHATTAWApTHANTHAKHATpNIKHAHITpYAMAKKANpFONGMANfDIGIT ZEROlONElTWOmHREElFOU",
    "RmIVElSIXmEVENlEIGHTlNINEfCHARACTER ANGKHANKHUpKHOMUT"]),
  (0xE81, ["aLAO LETTER KOmHO SUNG.pTAM.lPALI GHAlNGOlCOlPALI CHAlSO TAM.lPALI JHAlNYOlPALI NYAqT",
    "TAsHAqDDAsHAqNNAlDOlTOmHO SUNGpTAMlPALI DHAlNOlBOlPOmHO SUNGlFO TAMlPHO TAMlFO SUNGlPALI BHA",
    "lMOlYOlLO LING.pOOT.lWOlSANSKRIT SHAvSAmO SUNGlHO SUNGlPALI LLAlOlHO TAMeELLIPSISeVOWEL SIGN",
    " ApMAI KANpAAqMpIqIpYqYpUqUeSIGN PALI VIRAMAeVOWEL SIGN MAI KONeSEMIVOWEL SIGN LOtNYO..eVOWE",
    "L SIGN EqIpOpAYqI.eKO LA.eTONE MAI EKnTHOoInCATAWAeCANCELLATION MARKeNIGGAHITA..eDIGIT ZEROk",
    "ONEkTWOlHREEkFOURlIVEkSIXlEVENkEIGHTkNINE..eHO NOhMOeLETTER KHMU GOqNYO"]),
  (0xF00, ["aTIBETAN SYLLABLE OMiMARK GTER YIG MGO TRUNCATED Azb-UM RNAM BCAD MAzfGTER TSHEG MAnI",
    "NITIAL YIG MGO MDUN MAnCLOSING YIG MGO SGAB MAoARET YIG MGO PHUR SHAD MAnYIG MGO TSHEG SHAD ",
    "MAnSBRUL SHADnBSKUR YIG MGOoKA- SHOG YIG MGOnINTERSYLLABIC TSHEGnDELIMITER TSHEG BSTARnSHADn",
    "NYIS SHADnTSHEG SHADnNYIS TSHEG SHADnRIN CHEN SPUNGS SHADoGYA GRAM SHADnCARET -DZUD RTAGS ME",
    " LONG CANnGTER TSHEGiLOGOTYPE SIGN CHAD RTAGSwLHAG RTAGSiASTROLOGICAL SIGN SGRA GCAN -CHAR R",
    "TAGSzb-KHYUD PAzbSDONG TSHUGSiSIGN RDEL DKAR GCIGyNYISySUMsNAG GCIGxNYISsDKAR RDEL NAGiDIGIT",
    " ZEROoONEoTWOpHREEoFOURpIVEoSIXpEVENoEIGHToNINEoHALF ONEtTWOuHREEtFOURuIVEtSIXuEVENtEIGHTtNI",
    "NEtZEROiMARK BSDUS RTAGSnNGAS BZUNG NYI ZLAnCARET -DZUD RTAGS BZHI MIG CANnNGAS BZUNG SGOR R",
    "TAGSnCHE MGOnTSA -PHRUnGUG RTAGS GYONzaASnANG KHANG GYONzaASiSIGN YAR TSHESnMAR TSHESiLETTER",
    " KAqHApGAqHApNGApCAqHApJA.pNYApTTArHApDDArHApNNApTAqHApDAqHApNApPAqHApBAqHApMApTSArHApDZArHA",
    "pWApZHAqAp-ApYApRApLApSHAqSAqApHApApKSSApFIXED-FORM RApKKApRRA....iVOWEL SIGN AAtIuItUuUtVOC",
    "ALIC RzdRzcLzdLtEuEtOuOiSIGN RJES SU NGA ROoNAM BCADiVOWEL SIGN REVERSED IzeIiSIGN NYI ZLA N",
    "AA DAnSNA LDANiMARK HALANTAnPALUTAiSIGN LCI RTAGSnYANG RTAGSnLCE TSA CANnMCHU CANnGRU CAN RG",
    "YINGSrMED RGYINGSnINVERTED MCHU CANjUBJOINED SIGN LCE TSA CANxMCHU CANxINVERTED MCHU CANsLET",
    "TER KAzbHAzaGAzbHAzaNGAzaCAzbHAzaJA.zaNYAzaTTAzcHAzaDDAzcHAzaNNAzaTAzbHAzaDAzbHAzaNAzaPAzbHA",
    "zaBAzbHAzaMAzaTSAzcHAzaDZAzcHAzaWAzaZHAzbAza-AzaYAzaRAzaLAzaSHAzbSAzbAzaHAzaAzaKSSAzaFIXED-F",
    "ORM WAzlYAzlRA.iKU RU KHAr BZHI MIG CANiCANTILLATION SIGN HEAVY BEATzbLIGHT BEATzbCANG TE-Uz",
    "bSBUB -CHALiSYMBOL DRIL BUpRDO RJEpPADMA GDANpRDO RJE RGYA GRAMpPHUR PApNOR BUv NYIS -KHYILw",
    "GSUM -KHYILwBZHI -KHYIL.jIGN RDEL NAG RDEL DKARwGSUMiMARK BSKA- SHOG GI MGO RGYANnMNYAM YIG ",
    "GI MGO RGYANnNYIS TSHEGnINITIAL BRDA RNYING YIG MGO MDUN MAnCLOSING BRDA RNYING YIG MGO SGAB",
    " MAaRIGHT-FACING SVASTI SIGNaLEFT-FACING SVASTI SIGNaRIGHT-FACING SVASTI SIGN WITH DOTSaLEFT",
    "-FACING SVASTI SIGN WITH DOTSaTIBETAN MARK LEADING MCHAN RTAGSnTRAILING MCHAN RTAGS"]),
  (0x1000, ["aMYANMAR LETTER KAqHApGAqHApNGApCAqHApJAqHApNYAqNYApTTArHApDDArHApNNApTAqHApDAqHApNA",
    "pPAqHApBAqHApMApYApRApLApWApSApHApLLApApSHAN ApIqIpUqUpEpMON EpOpAUiVOWEL SIGN TALL AAtAAtIu",
    "ItUuUtEtAItMON IIxOtE ABOVEiSIGN ANUSVARAnDOT BELOWnVISARGApRAMAnASATiCONSONANT SIGN MEDIAL ",
    "YAzfRAzfWAzfHAiLETTER GREAT SAiDIGIT ZEROoONEoTWOpHREEoFOURpIVEoSIXpEVENoEIGHToNINEiSIGN LIT",
    "TLE SECTIONnSECTIONjYMBOL LOCATIVEpCOMPLETEDpAFOREMENTIONEDpGENITIVEiLETTER SHAqSApVOCALIC R",
    "yRxLyLiVOWEL SIGN VOCALIC RzdRzcLzdLiLETTER MON NGAtJHAtBBAvEiCONSONANT SIGN MON MEDIAL NAzj",
    "MAzjLAiLETTER SGAW KAREN SHAiVOWEL SIGN SGAW KAREN EUiTONE MARK SGAW KAREN HATHIzeKE PHOiLET",
    "TER WESTERN PWO KAREN THAziPWAiVOWEL SIGN WESTERN PWO KAREN EUzmUEiSIGN WESTERN PWO KAREN TO",
    "NE-1zl2zl3zl4zl5iLETTER EASTERN PWO KAREN NNAziYWAziGHWAiVOWEL SIGN GEBA KAREN ItKAYAH OEzaU",
    "zaEEiLETTER SHAN KAvHAuGAuCAuZAuNYAuDAuNAuPHAuFAuBAuTHAuHAiCONSONANT SIGN SHAN MEDIAL WAiVOW",
    "EL SIGN SHAN AAyEza ABOVEyFINAL YiSIGN SHAN TONE-2x3x5x6sCOUNCIL TONE-2zg3zbEMPHATIC TONEiLE",
    "TTER RUMAI PALAUNG FAiSIGN RUMAI PALAUNG TONE-5jHAN DIGIT ZEROtONEtTWOuHREEtFOURuIVEtSIXuEVE",
    "NtEIGHTtNINEjIGN KHAMTI TONE-1za3iVOWEL SIGN AITON AzbIiSYMBOL SHAN ONEuEXCLAMATIONaGEORGIAN",
    " CAPITAL LETTER ANyBANyGANyDONyENyVINyZENyTANyINyKANyLASyMANyNARyONyPARyZHARyRAEySANyTARyUNy",
    "PHARyKHARyGHANyQARySHINyCHINzaANyJILyCILzaHARyXANyJHANyHAEzaEzaIEyWEyHARzaOE.yYN.....yAEN..j",
    "LETTER ANqBANqGANqDONqENqVINqZENqTANqINqKANqLASqMANqNARqONqPARqZHARqRAEqSANqTARqUNqPHARqKHAR",
    "qGHANqQARqSHINqCHINrANqJILqCILrHARqXANqJHANqHAErErIEqWEqHARrOEqFIqYNqELIFIqTURNED GANqAINjPA",
    "RAGRAPH SEPARATORaMODIFIER LETTER GEORGIAN NARaGEORGIAN LETTER AENqHARD SIGNqLABIAL SIGNaHAN",
    "GUL CHOSEONG KIYEOKqSSANGKIYEOKqNIEUNqTIKEUTqSSANGTIKEUTqRIEULqMIEUMqPIEUPqSSANGPIEUPrIOSrSA",
    "NGSIOSqIEUNGqCIEUCqSSANGCIEUCqCHIEUCHqKHIEUKHqTHIEUTHqPHIEUPHqHIEUHqNIEUN-KIYEOKqSSANGNIEUNq",
    "NIEUN-TIKEUTwPIEUPqTIKEUT-KIYEOKqRIEUL-NIEUNqSSANGRIEULqRIEUL-HIEUHqKAPYEOUNRIEULqMIEUM-PIEU",
    "PqKAPYEOUNMIEUMqPIEUP-KIYEOKwNIEUNwTIKEUTwSIOSzb-KIYEOKzcTIKEUTzcPIEUPxSANGSIOSxIOS-CIEUCwCI",
    "EUCxHIEUCHwTHIEUTHwPHIEUPHqKAPYEOUNPIEUPySSANGPIEUPqSIOS-KIYEOKvNIEUNvTIKEUTvRIEULvMIEUMvPIE",
    "UPzb-KIYEOKvSSANGSIOSvIEUNGvCIEUCwHIEUCHvKHIEUKHvTHIEUTHvPHIEUPHvHIEUHqCHITUEUMSIOSzaSANGSIO",
    "SrEONGCHIEUMSIOSzdSANGSIOSqPANSIOSqIEUNG-KIYEOKwTIKEUTwMIEUMwPIEUPwSIOSwPANSIOSqSSANGIEUNGqI",
    "EUNG-CIEUCxHIEUCHwTHIEUTHwPHIEUPHqYESIEUNGqCIEUC-IEUNGrHITUEUMCIEUCySSANGCIEUCrEONGCHIEUMCIE",
    "UCzcSSANGCIEUCrHIEUCH-KHIEUKHyHIEUHtTUEUMCHIEUCHrEONGCHIEUMCHIEUCHqPHIEUPH-PIEUPqKAPYEOUNPHI",
    "EUPHqSSANGHIEUHqYEORINHIEUHqKIYEOK-TIKEUTqNIEUN-SIOSwCIEUCwHIEUHqTIKEUT-RIEULqFILLERhJUNGSEO",
    "NG FILLERrAsErYAtErEOsrYEOtrOrWAtErOErYOrUrWEOtsIrYUrEUrYIrIrA-OtUrYA-OuYOrEO-OuUuEUrYEO-OvU",
    "rO-EOutYEtOtUrYO-YAwEvEOuOuIrU-AuEtEO-EUtYEtUrYU-AuEOvuYEOwuUuIrEU-UuEUrYI-UrI-AtYAtOtUtEUtA",
    "RAEArARAEAw-EOxUxIrSSANGARAEArA-EUrYA-UsEO-YArO-YAvEiONGSEONG KIYEOKrSSANGKIYEOKrKIYEOK-SIOS",
    "rNIEUNw-CIEUCxHIEUHrTIKEUTrRIEULw-KIYEOKxMIEUMxPIEUPxSIOSxTHIEUTHxPHIEUPHxHIEUHrMIEUMrPIEUPw",
    "-SIOSrSIOSsSANGSIOSrIEUNGrCIEUCsHIEUCHrKHIEUKHrTHIEUTHrPHIEUPHrHIEUHrKIYEOK-RIEULySIOS-KIYEO",
    "KrNIEUN-KIYEOKxTIKEUTxSIOSxPANSIOSxTHIEUTHrTIKEUT-KIYEOKyRIEULrRIEUL-KIYEOK-SIOSxNIEUNxTIKEU",
    "Tze-HIEUHrSSANGRIEULrRIEUL-MIEUM-KIYEOKzeSIOSxPIEUP-SIOSzeHIEUHxKAPYEOUNPIEUPxSSANGSIOSxPANS",
    "IOSxKHIEUKHxYEORINHIEUHrMIEUM-KIYEOKxRIEULxPIEUPxSIOSySANGSIOSxPANSIOSxCHIEUCHxHIEUHrKAPYEOU",
    "NMIEUMrPIEUP-RIEULxPHIEUPHxHIEUHrKAPYEOUNPIEUPrSIOS-KIYEOKwTIKEUTwRIEULwPIEUPrPANSIOSrIEUNG-",
    "KIYEOKxSSANGKIYEOKrSSANGIEUNGrIEUNG-KHIEUKHrYESIEUNGza-SIOSzbPANSIOSrPHIEUPH-PIEUPrKAPYEOUNP",
    "HIEUPHrHIEUH-NIEUNxRIEULxMIEUMxPIEUPrYEORINHIEUHrKIYEOK-NIEUNyPIEUPyCHIEUCHyKHIEUKHyHIEUHrSS",
    "ANGNIEUNaETHIOPIC SYLLABLE HAtUtItAAtEEutOuAsLAtUtItAAtEEutOtWAsHHAuUuIuAAuEEvuOuWAsMAtUtItA",
    "AtEEutOtWAsSZAuUuIuAAuEEvuOuWAsRAtUtItAAtEEutOtWAsSAtUtItAAtEEutOtWAtHAuUuIuAAuEEvuOuWAsQAtU",
    "tItAAtEEutOuAtWA.uIuAAuEEv..tHAuUuIuAAuEEvuO.uWA.vIvAAvEEw..sBAtUtItAAtEEutOtWAsVAtUtItAAtEE",
    "utOtWAsTAtUtItAAtEEutOtWAsCAtUtItAAtEEutOtWAsXAtUtItAAtEEutOuAtWA.uIuAAuEEv..sNAtUtItAAtEEut",
    "OtWAtYAuUuIuAAuEEvuOuWAsGLOTTAL AzbUzbIzbAAzbEEzczbOzbWAsKAtUtItAAtEEutOuAtWA.uIuAAuEEv..tXA",
    "uUuIuAAuEEvuO.uWA.vIvAAvEEw..sWAtUtItAAtEEutOuAsPHARYNGEAL AzeUzeIzeAAzeEEzfzeO.sZAtUtItAAtE",
    "EutOtWAtHAuUuIuAAuEEvuOuWAsYAtUtItAAtEEutOuAsDAtUtItAAtEEutOtWAtDAuUuIuAAuEEvuOuWAsJAtUtItAA",
    "tEEutOtWAsGAtUtItAAtEEutOuAtWA.uIuAAuEEv..tGAuUuIuAAuEEvuOuWAAsTHAuUuIuAAuEEvuOuWAsCHAuUuIuA",
    "AuEEvuOuWAsPHAuUuIuAAuEEvuOuWAsTSAuUuIuAAuEEvuOuWAtZAuUuIuAAuEEvuOvAsFAtUtItAAtEEutOtWAsPAtU",
    "tItAAtEEutOtWAsRYAsMYAsFYA..jCOMBINING GEMINATION AND VOWEL LENGTH MARKtVOWEL LENGTH MARKtGE",
    "MINATION MARKjSECTION MARKjWORDSPACEjFULL STOPjCOMMAjSEMICOLONjCOLONjPREFACE COLONjQUESTION ",
    "MARKjPARAGRAPH SEPARATORjDIGIT ONEpTWOqHREEpFOURqIVEpSIXqEVENpEIGHTpNINEjNUMBER TENrWENTYrHI",
    "RTYqFORTYrIFTYqSIXTYrEVENTYqEIGHTYqNINETYqHUNDREDqTEN THOUSAND...jSYLLABLE SEBATBEIT MWAsMWI",
    "uEEvsSEBATBEIT BWAsBWIuEEvsSEBATBEIT FWAsFWIuEEvsSEBATBEIT PWAsPWIuEEvjTONAL MARK YIZETuDERE",
    "TuRIKRIKuSHORT RIKRIKuDIFATuKENATuCHIRETuHIDETuDERET-HIDETuKURT......aCHEROKEE LETTER AqEqIq",
    "OqUqVqGAqKAqGErIrOrUrVqHArErIrOrUrVqLArErIrOrUrVqMArErIrOrUqNAqHNAqNAHrErIrOrUrVqQUAsEsIsOsU",
    "sVqSArrErIrOrUrVqDAqTAqDEqTEqDIqTIqDOrUrVrLAqTLAsEsIsOsUsVrSAsEsIsOsUsVqWArErIrOrUrVqYArErIr",
    "OrUrVqMV..jSMALL LETTER YExIxOxUxVwMV..bANADIAN SYLLABICS HYPHENtEtAAItIuItOuOtY-CREE OOtCAR",
    "RIER EEzcItAuAtWEvST-CREE WEuIuEST-CREE WIuIIuEST-CREE WIIuOuEST-CREE WOuOOuEST-CREE WOOtNAS",
    "KAPI WOOtWAuEST-CREE WAuAAuEST-CREE WAAtNASKAPI WAAtAItY-CREE WtGLOTTAL STOPtFINAL ACUTEzaGR",
    "AVEzaBOTTOM HALF RINGzaTOP HALF RINGzaRIGHT HALF RINGzcNGzaDOUBLE ACUTEzhSHORT VERTICAL STRO",
    "KESzaMIDDLE DOTzaSHORT HORIZONTAL STROKEzaPLUSzaDOWN TACKtENtINtONtANtPEuAAIuIvIuOvOtY-CREE ",
    "POOtCARRIER HEEzdItPAvAuWEtWEST-CREE PWEtPWItWEST-CREE PWItPWIItWEST-CREE PWIItPWOtWEST-CREE",
    " PWOtPWOOtWEST-CREE PWOOtPWAtWEST-CREE PWAtPWAAtWEST-CREE PWAAtY-CREE PWAAtPtWEST-CREE PtCAR",
    "RIER HtTEuAAIuIvIuOvOtY-CREE TOOtCARRIER DEEzdItTAvAuWEtWEST-CREE TWEtTWItWEST-CREE TWItTWII",
    "tWEST-CREE TWIItTWOtWEST-CREE TWOtTWOOtWEST-CREE TWOOtTWAtWEST-CREE TWAtTWAAtWEST-CREE TWAAt",
    "NASKAPI TWAAtTuTEvIvOvAtKEuAAIuIvIuOvOtY-CREE KOOtKAvAuWEtWEST-CREE KWEtKWItWEST-CREE KWItKW",
    "IItWEST-CREE KWIItKWOtWEST-CREE KWOtKWOOtWEST-CREE KWOOtKWAtWEST-CREE KWAtKWAAtWEST-CREE KWA",
    "AtNASKAPI KWAAtKuWtSOUTH-SLAVEY KEHziIHziOHziAHtCEuAAIuIvIuOvOtY-CREE COOtCAvAuWEtWEST-CREE ",
    "CWEtCWItWEST-CREE CWItCWIItWEST-CREE CWIItCWOtWEST-CREE CWOtCWOOtWEST-CREE CWOOtCWAtWEST-CRE",
    "E CWAtCWAAtWEST-CREE CWAAtNASKAPI CWAAtCtSAYISI THtMEuAAIuIvIuOvOtY-CREE MOOtMAvAuWEtWEST-CR",
    "EE MWEtMWItWEST-CREE MWItMWIItWEST-CREE MWIItMWOtWEST-CREE MWOtMWOOtWEST-CREE MWOOtMWAtWEST-",
    "CREE MWAtMWAAtWEST-CREE MWAAtNASKAPI MWAAtMtWEST-CREE MtMHtATHAPASCAN MtSAYISI MtNEuAAIuIvIu",
    "OvOtY-CREE NOOtNAvAuWEtWEST-CREE NWEtNWAtWEST-CREE NWAtNWAAtWEST-CREE NWAAtNASKAPI NWAAutCAR",
    "RIER NGtNHtLEuAAIuIvIuOvOtY-CREE LOOtLAvAuWEtWEST-CREE LWEtLWItWEST-CREE LWItLWIItWEST-CREE ",
    "LWIItLWOtWEST-CREE LWOtLWOOtWEST-CREE LWOOtLWAtWEST-CREE LWAtLWAAtWEST-CREE LWAAtLtWEST-CREE",
    " LtMEDIAL LtSEuAAIuIvIuOvOtY-CREE SOOtSAvAuWEtWEST-CREE SWEtSWItWEST-CREE SWItSWIItWEST-CREE",
    " SWIItSWOtWEST-CREE SWOtSWOOtWEST-CREE SWOOtSWAtWEST-CREE SWAtSWAAtWEST-CREE SWAAtNASKAPI SW",
    "AAtStATHAPASCAN StSWtBLACKFOOT StMOOSE-CREE SKtNASKAPI SKWzd-WzdPWAzdTWAzdKWAzdCWAtSHEvIwIvO",
    "wOvAwAvWEtWEST-CREE SHWEtSHWItWEST-CREE SHWItSHWIItWEST-CREE SHWIItSHWOtWEST-CREE SHWOtSHWOO",
    "tWEST-CREE SHWOOtSHWAtWEST-CREE SHWAtSHWAAtWEST-CREE SHWAAtSHtYEuAAIuIvIuOvOu-CREE YOOuAvAuW",
    "EtWEST-CREE YWEtYWItWEST-CREE YWItYWIItWEST-CREE YWIItYWOtWEST-CREE YWOtYWOOtWEST-CREE YWOOt",
    "YWAtWEST-CREE YWAtYWAAtWEST-CREE YWAAtNASKAPI YWAAtYtBIBLE-CREE YtWEST-CREE YtSAYISI YItREu-",
    "CREE REtWEST-CREE LEtRAAIuIvIuOvOtWEST-CREE LOtRAvAtWEST-CREE LAtRWAAtWEST-CREE RWAAtRtWEST-",
    "CREE RtMEDIAL RtFEuAAIuIvIuOvOuAvAuWAAtWEST-CREE FWAAtFtTHEtN-CREE THEtTHItN-CREE THItTHIItN",
    "-CREE THIItTHOwOvAwAvWAAtWEST-CREE THWAAtTHuTHEwIwOwAwuYEvIvOvAtNUNAVIK HEzdIzeIzdOzeOzdAzeA",
    "zdyUT HtHKtQAAIuIvIuOvOuAvAutTLHEwIwOwAtWEST-CREE REzfIzfOzfAtNGAAIvIwIvOwOvAwAvuNGtSAYISI S",
    "HEzdIzdOzdAtWOODS-CREE THEzhIzhOzhAzhtLHIwIvOwOvAwAvtTH-CREE THEzeIzfIzeOzfOzeAzfAzetAIVILIK",
    " BtBLACKFOOT EzeIzeOzeAzeWEzfIzfOzfAzeNEzfIzfOzfAzeKEzfIzfOzfAtSAYISI HEzcIzcOzcAtCARRIER GH",
    "UzeOzeEzfEzeIzeAzcRUzdOzdEzeEzdIzdAzcWUzdOzdEzeEzdIzdAzcHWUzeOzeEzfEzeIzeAzcTHUzeOzeEzfEzeIz",
    "eAzdTUzeOzeEzfEzeIzeAzcPUzdOzdEzeEzdIzdAzdzcGUzdOzdEzeEzdIzdAzcKHUzeOzeEzfEzeIzeAzdKUzeOzeEz",
    "fEzeIzeAzezcNUzdOzdEzeEzdIzdAzcMUzdOzdEzeEzdIzdAzcYUzdOzdEzeEzdIzdAzcJUtSAYISI JUtCARRIER JO",
    "zdEzeEzdItSAYISI JItCARRIER JAzdJUzeOzeEzfEzeIzeAzcLUzdOzdEzeEzdIzdAzcDLUzeOzeEzfEzeIzeAzcLH",
    "UzeOzeEzfEzeIzeAzcTLHUzfOzfEzgEzfIzfAzeUzeOzeEzfEzeIzeAzcZUzdOzdEzeEzdIzdAzdzcINITIAL ZzcDZU",
    "zeOzeEzfEzeIzeAzcSUzdOzdEzeEzdIzdAzdHUzeOzeEzfEzeIzeAzezcTSUzeOzeEzfEzeIzeAzcCHUzeOzeEzfEzeI",
    "zeAzcTTSUzfOzfEzgEzfIzfAuHI SIGNtFULL STOPtQAItNGAIuNGIxIwOxOwAxAtWOODS-CREE THWEEziIzjIziOz",
    "jOziAzjAzfFINAL THtBLACKFOOT WaOGHAM SPACE MARKgLETTER BEITHnLUISnFEARNnSAILnNIONnUATHnDAIRn",
    "TINNEnCOLLoEIRTnMUINnGORTnNGEADALnSTRAIFnRUISnAILMnONNnURnEADHADHnIODHADHnEABHADHnORnUILLEAN",
    "NnIFINnEAMHANCHOLLnPEITHgFEATHER MARKgREVERSED FEATHER MARK...aRUNIC LETTER FEHU FEOH FE FnV",
    "nURUZ UR UnYRonWnTHURISAZ THURS THORNnETHnANSUZ AnOS OnAC AoESCnLONG-BRANCH-OSS OnSHORT-TWIG",
    "-OSS OnOoEoNnRAIDO RAD REID RnKAUNAnCENnKAUN KnGnENGnGEBO GYFU GoARnWUNJO WYNN WnHAGLAZ HpEG",
    "L HnLONG-BRANCH-HAGALL HnSHORT-TWIG-HAGALL HnNAUDIZ NYD NAUD NnSHORT-TWIG-NAUD NnDOTTED-NnIS",
    "AZ IS ISS InEnJERAN JnGERnLONG-BRANCH-AR AEnSHORT-TWIG-AR AnIWAZ EOHnPERTHO PEORTH PnALGIZ E",
    "OLHXnSOWILO SoIGEL LONG-BRANCH-SOL SoHORT-TWIG-SOL SnCnZnTIWAZ TIR TYR TnSHORT-TWIG-TYR TnDn",
    "BERKANAN BEORC BJARKAN BnSHORT-TWIG-BJARKAN BnDOTTED-PnOPEN-PnEHWAZ EH EnMANNAZ MAN MnLONG-B",
    "RANCH-MADR MnSHORT-TWIG-MADR MnLAUKAZ LAGU LOGR LnDOTTED-LnINGWAZqnDAGAZ DAEG DnOTHALAN ETHE",
    "L OnEARnIORnCWEORTHoALCoEALCnSTANnLONG-BRANCH-YRnSHORT-TWIG-YRnICELANDIC-YRnQnXgSINGLE PUNCT",
    "UATIONgMULTIPLE PUNCTUATIONgCROSS PUNCTUATIONgARLAUG SYMBOLgTVIMADUR SYMBOLgBELGTHOR SYMBOLg",
    "LETTER KnSHnOOnFRANKS CASKET OSzcISzcEHzcACzdESC.......aTAGALOG LETTER ApIpUpKApGApNGApTApDA",
    "pNApPApBApMApYApRApLApWApSApHAiVOWEL SIGN ItUiSIGN VIRAMAnPAMUDPOD.........iLETTER ARCHAIC R",
    "AaHANUNOO LETTER ApIpUpKApGApNGApTApDApNApPApBApMApYApRApLApWApSApHAiVOWEL SIGN ItUiSIGN PAM",
    "UDPODaPHILIPPINE SINGLE PUNCTUATIONlDOUBLE PUNCTUATION.........aBUHID LETTER AnInUnKAnGAnNGA",
    "nTAnDAnNAnPAnBAnMAnYAnRAnLAnWAnSAnHAgVOWEL SIGN IrU............aTAGBANWA LETTER AqIqUqKAqGAq",
    "NGAqTAqDAqNAqPAqBAqMAqYA.qLAqWAqSA.jVOWEL SIGN IuU............aKHMER LETTER KAoHAoOoHOnNGOnC",
    "AoHAoOoHOnNYOnDAnTTHAnDOnTTHOnNNOnTAoHAoOoHOnNOnBAnPHAoOoHOnMOnYOnROnLOnVOnSHAoSOoAnHAnLAnQA",
    "gINDEPENDENT VOWEL QAQzbAzaIzbIzaUzbKzbUzcVyRYzbYyLYzbYyQEzaAIzaOO TYPE ONEziTWOzaAUgVOWEL I",
    "NHERENT AQwAmSIGN AArIsIrYsYrUsUsArOErYArIErErAEsIrOOrAUgSIGN NIKAHITlREAHMUKlYUUKALEAPINTUl",
    "MUUSIKATOANlTRIISAPlBANTOClROBATlTOANDAKHIATlKAKABATlAHSDAlSAMYOK SANNYAlVIRIAMlCOENGlBATHAM",
    "ASATlKHANlBARIYOOSANlCAMNUC PII KUUHlLEK TOOlBEYYALlPHNAEK MUANlKOOMUUTgCURRENCY SYMBOL RIEL",
    "gSIGN AVAKRAHASANYAmTTHACAN..gDIGIT ZEROmONEmTWOnHREEmFOURnIVEmSIXnEVENmEIGHTmNINE......gSYM",
    "BOL LEK ATTAK SONxMUOYxPIIxBEIyUONxPRAMzc-MUOYzdPIIzdBEIzeUON......aMONGOLIAN BIRGAkELLIPSIS",
    "kCOMMAkFULL STOPkCOLONkFOUR DOTSkTODO SOFT HYPHENkSIBE SYLLABLE BOUNDARY MARKERkMANCHU COMMA",
    "rFULL STOPkNIRUGUkFREE VARIATION SELECTOR ONEzjTWOzkHREEkVOWEL SEPARATORkFREE VARIATION SELE",
    "CTOR FOURkDIGIT ZEROqONEqTWOrHREEqFOURrIVEqSIXrEVENqEIGHTqNINE......kLETTER ArErIrOrUrOErUEr",
    "EErNArANGrBArPArQArGArMArLArSAsHArTArDArCHArJArYArRArWArFArKAsHArTSArZArHAArZRArLHArZHIrCHIr",
    "TODO LONG VOWEL SIGNwEwIwOwUwOEwUEwANGwBAwPAwQAwGAwMAwTAwDAwCHAwJAwTSAwYAwWAwKAwGAAwHAAwJIAw",
    "NIAwDZArSIBE EwIxYwUExwANGwKAwGAwHAwPAwSHAwTAwDAwJAwFAwGAAwHAAwTSAwZAwRAAwCHAwZHArMANCHU IyK",
    "AyRAyFAyZHArCHA WITH TWO DOTS.......rALI GALI ANUSVARA ONEzbVISARGA ONEzbDAMARUzbUBADAMAzbIN",
    "VERTED UBADAMAzbBALUDAzbTHREE BALUDAzbAzbIzbKAzbNGAzbCAzbTTAzdHAzbDDAzbNNAzbTAzbDAzbPAzcHAzb",
    "SSAzbZHAzcAzbAHrTODO ALI GALI TAzgZHArMANCHU ALI GALI GHAziNGAziCAziJHAziTTAziDDHAziTAziDHAz",
    "iSSAziCYAziZHAzjArALI GALI HALF UzgYArMANCHU ALI GALI BHArALI GALI DAGALGArMANCHU ALI GALI L",
    "HA.....aCANADIAN SYLLABICS OYtAYuAYtWAYtPOYuAYuWOYtTAYtKAYuWAYtMAYtNOYuAYtLAYtSOYuAYuHOYvAYv",
    "WOYtYOYuAYtRAYtNWItOJIBWAY NWItNWIItOJIBWAY NWIItNWOtOJIBWAY NWOtNWOOtOJIBWAY NWOOtRWEEvIwIv",
    "OwOvAtOJIBWAY PzcTzcKzcCzcMzcNzcSzdHtEASTERN WtWESTERN WtFINAL SMALL RINGzaRAISED DOTtR-CREE",
    " RWEtWEST-CREE LOOzfAAtTHWEwAuTHWEwOOwAAuLHWEwOOtSAYISI SHWEzdOOzbHOOtCARRIER GWUzcDENE GEEz",
    "cGAAzdWAtSAYISI JUUtCARRIER JWAtBEAVER DENE LzgRtCARRIER DENTAL S..........aLIMBU VOWEL-CARR",
    "IER LETTERgLETTER KAoHAnGAoHAnNGAnCAoHAnJAoHAnYANnTAoHAnDAoHAnNAnPAoHAnBAoHAnMAnYAnRAnLAnWAn",
    "SHAoSAoAnHAnGYANnTRA.gVOWEL SIGN ArIrUrEErAIrOOrAUrErOgSUBJOINED LETTER YAxRAxWA....hMALL LE",
    "TTER KAtNGAtANUSVARAtTAtNAtPAtMAtRAtLAhIGN MUKPHRENGlKEMPHRENGlSA-I....lLOO...gEXCLAMATION M",
    "ARKgQUESTION MARKgDIGIT ZEROmONEmTWOnHREEmFOURnIVEmSIXnEVENmEIGHTmNINEaTAI LE LETTER KAoXAoN",
    "GAoTSAoSAoYAoTApHAoLAoPApHAoMAoFAoVAoHAoQAoKHAoTSHAoNAoAoIoEEpHoUoOOpoUEoEoAUEpI..oTONE-2t3t",
    "4t5t6...........aNEW TAI LUE LETTER HIGH QAtLOW QAtHIGH KAyXAyNGAtLOW KAxXAxNGAtHIGH TSAySAy",
    "YAtLOW TSAxSAxYAtHIGH TAzaHAyNAtLOW TAyHAxNAtHIGH PAzaHAyMAtLOW PAyHAxMAtHIGH FAyVAyLAtLOW F",
    "AxVAxLAtHIGH HAyDAyBAtLOW HAxDAxBAtHIGH KVAyXVAtLOW KVAxXVAtHIGH SUAtLOW SUA....mVOWEL SIGN ",
    "VOWEL SHORTENERxAAxIIxUyUxExAExOyAxUExAYyAYxUYxOYyAYxUEYxIYmLETTER FINAL VzaNGzbzaMzaKzaDzaB",
    "mTONE MARK-1w2......mDIGIT ZEROsONEsTWOtHREEsFOURtIVEsSIXtEVENsEIGHTsNINEmTHAM DIGIT ONE...m",
    "SIGN LAEuVaKHMER SYMBOL PATHAMASATnMUOY KOETnPII KOETnBEI KOEToUON KOETnPRAM KOETr-MUOY KOET",
    "sPII KOETsBEI KOETtUON KOETnDAP KOETq-MUOY KOETrPII KOETrBEI KOETsUON KOETrPRAM KOETnTUTEYAS",
    "ATnMUOY ROCnPII ROCnBEI ROCoUON ROCnPRAM ROCr-MUOY ROCsPII ROCsBEI ROCtUON ROCnDAP ROCq-MUOY",
    " ROCrPII ROCrBEI ROCsUON ROCrPRAM ROCaBUGINESE LETTER KAqGAqNGAsKAqPAqBAqMArPAqTAqDAqNArRAqC",
    "AqJAqNYAsCAqYAqRAqLAqVAqSAqAqHAjVOWEL SIGN IuUuEuOuAE..jPALLAWAjEND OF SECTIONaTAI THAM LETT",
    "ER HIGH KAwHAwXAqLOW KAvXAvHAqNGAqHIGH CAwHAqLOW CAuSAuCHAqNYAqRATAqHIGH RATHAqDAqLOW RATHAq",
    "RANAqHIGH TAwHAqLOW TAvHAqNAqBAqHIGH PAwHAvFAqLOW PAuFAuPHAqMAqLOW YAqHIGH YAqRArUEqLArUEqWA",
    "qHIGH SHAwSAwAvHAqLLAqAqLOW HAqIrIqUrUqEEqOOqLAEqGREAT SAjCONSONANT SIGN MEDIAL RAzgLAyLA TA",
    "NG LAIjSIGN MAI KANG LAIjCONSONANT SIGN FINAL NGAyLOW PAyHIGH RATHA OR LOW PAyMAyBAySA.jSIGN",
    " SAKOTjVOWEL SIGN AuMAI SATuAAuTALL AAuIvIuUEvUEvvUuOvA BELOWvYuEuAEuOOuAIuTHAM AIuOA ABOVEj",
    "SIGN MAI KANGoTONE-1t2oKHUEN TONE-3za4za5oRA HAAMoMAI SAMoKHUEN-LUE KARAN..jCOMBINING CRYPTO",
    "GRAMMIC DOTjHORA DIGIT ZEROuONEuTWOvHREEuFOURvIVEuSIXvEVENuEIGHTuNINE......jTHAM DIGIT ZEROu",
    "ONEuTWOvHREEuFOURvIVEuSIXvEVENuEIGHTuNINE......jSIGN WIANGtWAAKoSAWANoKEOWoHOYoDOKMAIoREVERS",
    "ED ROTATED RANAoMAI YAMOKoKAANsKUUoSATKAANvKUUoHANGoCAANG..aCOMBINING DOUBLED CIRCUMFLEX ACC",
    "ENTlIAERESIS-RINGkINFINITYkDOWNWARDS ARROWkTRIPLE DOTkX-X BELOWkWIGGLY LINE BELOWkOPEN MARK ",
    "BELOWkDOUBLE OPEN MARK BELOWkLIGHT CENTRALIZATION STROKE BELOWkSTRONG CENTRALIZATION STROKE ",
    "BELOWkPARENTHESES ABOVEkDOUBLE PARENTHESES ABOVEkPARENTHESES BELOWwOVERLAYkLATIN SMALL LETTE",
    "R W BELOWzeTURNED W BELOWlEFT PARENTHESIS ABOVE LEFTkRIGHT PARENTHESIS ABOVE RIGHTkLEFT PARE",
    "NTHESIS BELOW LEFTkRIGHT PARENTHESIS BELOW RIGHTkSQUARE BRACKETS ABOVEkNUMBER SIGN ABOVEkINV",
    "ERTED DOUBLE ARCH ABOVEkPLUS SIGN ABOVEkDOUBLE PLUS SIGN ABOVEzcBELOWkTRIPLE ACUTE ACCENTkLA",
    "TIN SMALL LETTER INSULAR GzmRzmT"]),
  (0x1B00, ["aBALINESE SIGN ULU RICEMsCANDRAoCECEKoSURANGoBISAHjLETTER AKARAv TEDUNGqIKARAv TEDUN",
    "GqUKARAv TEDUNGqRA REPAx TEDUNGqLA LENGAy TEDUNGqEKARAqAIKARAqOKARAv TEDUNGqKAs MAHAPRANAqGA",
    "s GORAqNGAqCAs LACAqJAs JERAqNYAqTA LATIKtMURDA MAHAPRANAqDA MURDA ALPAPRANAzaMAHAPRANAqNA R",
    "AMBATqTAs TAWAqDAs MADUqNAqPAs KAPALqBAs KEMBANGqMAqYAqRAqLAqWAqSA SAGAvPAsqHAjSIGN REREKANj",
    "VOWEL SIGN TEDUNGuULUx SARIuSUKUy ILUTuRA REPAzc TEDUNGuLA LENGAzd TEDUNGuTALINGzb REPAzcTED",
    "UNGzcREPA TEDUNGuPEPETza TEDUNGjADEG ADEGjLETTER KAF SASAKrHOT SASAKqTZIR SASAKqEF SASAKqVE ",
    "SASAKqZAL SASAKqASYURA SASAKrRCHAIC JNYA...jDIGIT ZEROpONEpTWOqHREEpFOURqIVEpSIXqEVENpEIGHTp",
    "NINEjPANTIlMADAjWINDUjCARIK PAMUNGKAHpSIKIpPARERENjPAMENENGjMUSICAL SYMBOL DONGzaENGzaUNGzaA",
    "NGzd SURANGzaINGzaAENGzaEUNGzaAINGzbNG GEDEyCOMBINING TEGEHzjENDEPzjKEMPULznLIzjJEGOGANzjKEM",
    "PUL WITH JEGOGANznLI WITH JEGOGANzjBENDEzjGONGyRIGHT-HAND OPEN DUGzqAGzkCLOSED TUKzsAKyLEFT-",
    "HAND OPEN PANGzpUNGzjCLOSED PLAKzsUKzjOPEN PINGjPANTI LANTANGlMADA LANTANG.aSUNDANESE SIGN P",
    "ANYECEKsGLAYARtWISADkLETTER ArIrUrAErOrEsUrKArQArGArNGArCArJArZArNYArTArDArNArPArFArVArBArMA",
    "rYArRArLArWArSArXArHAkCONSONANT SIGN PAMINGKALzcNYAKRAzeIKUkVOWEL SIGN PANGHULUyYUKUyAELAENG",
    "yOLONGxMEPETxNEULEUNGkSIGN PAMAAEHpVIRAMAkCONSONANT SIGN PASANGAN MAzjWAkLETTER KHArSYAkDIGI",
    "T ZEROqONEqTWOrHREEqFOURrIVEqSIXrEVENqEIGHTqNINEkAVAGRAHAkLETTER REUrLEUrBHArFINAL KxMaBATAK",
    " LETTER AnSIMALUNGUN AnHAnSIMALUNGUN HAnMANDAILING HAnBAnKARO BAnPAnSIMALUNGUN PAnNAnMANDAIL",
    "ING NAnWAnSIMALUNGUN WAnPAKPAK WAnGAnSIMALUNGUN GAnJAnDAnRAnSIMALUNGUN RAnMAnSIMALUNGUN MAoO",
    "UTHERN TAnNORTHERN TAnSAoIMALUNGUN SAnMANDAILING SAnYAnSIMALUNGUN YAnNGAnLAnSIMALUNGUN LAnNY",
    "AnCAnNDAnMBAnInUgSIGN TOMPIgVOWEL SIGN ErPAKPAK ErEErIrKARO IrOrKARO OrUs FOR SIMALUNGUN SAg",
    "CONSONANT SIGN NGvHgPANGOLATjONGONAN........gSYMBOL BINDU NA METEKtPINARBORAStJUDULtPANGOLAT",
    "aLEPCHA LETTER KApLApHAoGApLAoNGAoCApHAoJAoNYAoTApHAoDAoNAoPApLApHAoFApLAoBApLAoMApLAoTSAqHA",
    "oDZAoYAoRAoLAoHApLAoVAoSApHAoWAoAhSUBJOINED LETTER YAyRAhVOWEL SIGN AAsIsOtOsUtUsEhCONSONANT",
    " SIGN KwMwLwNwPwRwTwNYIN-DOwKANGhSIGN RANmNUKTA...hPUNCTUATION TA-ROLtNYET THYOOM TA-ROLtCER",
    "-WAtTSHOOK CER-WAzahDIGIT ZEROnONEnTWOoHREEnFOURoIVEnSIXoEVENnEIGHTnNINE...hLETTER TTAqHAoDD",
    "AaOL CHIKI DIGIT ZEROpONEpTWOqHREEpFOURqIVEpSIXqEVENpEIGHTpNINEjLETTER LAqATrGrNGrLqLAAqAAKs",
    "JsMsWqLIqISrHrNYrRqLUqUCrDrNNrYqLEqEPrDDrNrRRqLOqOTTrBrVrHjMU TTUDDAGjGAAHLAA TTUDDAAGjMU-GA",
    "AHLAA TTUDDAAGjRELAAjPHAARKAAjAHADjPUNCTUATION MUCAADvDOUBLE MUCAADaCYRILLIC SMALL LETTER RO",
    "UNDED VEwLONG-LEGGED DEwNARROW OwWIDE ESwTALL TExHREE-LEGGED TExALL HARD SIGNzcYATwUNBLENDED",
    " UK.......aGEORGIAN MTAVRULI CAPITAL LETTER ANziBANziGANziDONziENziVINziZENziTANziINziKANziL",
    "ASziMANziNARziONziPARziZHARziRAEziSANziTARziUNziPHARziKHARziGHANziQARziSHINziCHINzjANziJILzi",
    "CILzjHARziXANziJHANziHAEzjEzjIEziWEziHARzjOEziFIziYNziELIFIziTURNED GANziAIN..zjENziHARD SIG",
    "NziLABIAL SIGNaSUNDANESE PUNCTUATION BINDU SURYAzdPANGLONGzeURNAMAzdCAKRAzdLEU SATANGAzdKA S",
    "ATANGAzdDA SATANGAzdBA SATANGA........aVEDIC TONE KARSHANAlSHARAlPRENKHAgSIGN NIHSHVASAlYAJU",
    "RVEDIC MIDLINE SVARITAgTONE YAJURVEDIC AGGRAVATED INDEPENDENT SVARITAwINDEPENDENT SVARITAwKA",
    "THAKA INDEPENDENT SVARITAlCANDRA BELOWlYAJURVEDIC KATHAKA INDEPENDENT SVARITA SCHROEDERlDOUB",
    "LE SVARITAlTRIPLE SVARITAlKATHAKA ANUDATTAlDOT BELOWlTWO DOTS BELOWmHREE DOTS BELOWlRIGVEDIC",
    " KASHMIRI INDEPENDENT SVARITAlATHARVAVEDIC INDEPENDENT SVARITAgSIGN VISARGA SVARITAtUDATTAlR",
    "EVERSED VISARGA UDATTAlVISARGA ANUDATTAlREVERSED VISARGA ANUDATTAlVISARGA UDATTA WITH TAILtA",
    "NUDATTA WITH TAILlANUSVARA ANTARGOMUKHAuBAHIRGOMUKHAuVAMAGOMUKHAzg WITH TAILlTIRYAKlHEXIFORM",
    " LONG ANUSVARAlLONG ANUSVARAlRTHANG LONG ANUSVARAlANUSVARA UBHAYATO MUKHAmRDHAVISARGAlROTATE",
    "D ARDHAVISARGAgTONE CANDRA ABOVEgSIGN JIHVAMULIYAlUPADHMANIYAlATIKRAMAgTONE RING ABOVElDOUBL",
    "E RING ABOVEgSIGN DOUBLE ANUSVARA ANTARGOMUKHA.....aLATIN LETTER SMALL CAPITAL AzdEgSMALL LE",
    "TTER TURNED AEgLETTER SMALL CAPITAL BARRED BzcCzcDzcETHzdgSMALL LETTER TURNED OPEN EzbIgLETT",
    "ER SMALL CAPITAL JzcKzcL WITH STROKEzcMzcREVERSED NzcOzdPEN OgSMALL LETTER SIDEWAYS OzePEN O",
    "ze WITH STROKEtTURNED OEgLETTER SMALL CAPITAL OUgSMALL LETTER TOP HALF OtBOTTOM HALF OgLETTE",
    "R SMALL CAPITAL PzcREVERSED RzcTURNED RzdzcUgSMALL LETTER SIDEWAYS UzdDIAERESIZED UzdTURNED ",
    "MgLETTER SMALL CAPITAL VzcWzcZzcEZHnVOICED LARYNGEAL SPIRANTnAINaGREEK LETTER SMALL CAPITAL ",
    "GAMMAzcLAMDAzcPIzcRHOzcPSIaCYRILLIC LETTER SMALL CAPITAL ELaMODIFIER LETTER CAPITAL AzaEyBza",
    "ARRED ByDyEyREVERSED EyGyHyIyJyKyLyMyNyREVERSED NyOzaUyPyRyTyUyWqSMALL AwTURNED AwALPHAwTURN",
    "ED AEwBwDwEwSCHWAwOPEN EwTURNED OPEN EwGwTURNED IwKwMwENGwOxPEN OwTOP HALF OwBOTTOM HALF OwP",
    "wTwUwSIDEWAYS UwTURNED MwVwAINwBETAwGREEK GAMMAwDELTAwGREEK PHIwCHIaLATIN SUBSCRIPT SMALL LE",
    "TTER IzeRzeUzeVaGREEK SUBSCRIPT SMALL LETTER BETAzeGAMMAzeRHOzePHIzeCHIaLATIN SMALL LETTER U",
    "EtB WITH MIDDLE TILDEtD WITH MIDDLE TILDEtF WITH MIDDLE TILDEtM WITH MIDDLE TILDEtN WITH MID",
    "DLE TILDEtP WITH MIDDLE TILDEtR WITH MIDDLE TILDEzbFISHHOOK AND MIDDLE TILDEtS WITH MIDDLE T",
    "ILDEtT WITH MIDDLE TILDEtZ WITH MIDDLE TILDEtTURNED GaMODIFIER LETTER CYRILLIC ENaLATIN SMAL",
    "L LETTER INSULAR GtTH WITH STRIKETHROUGHmCAPITAL LETTER I WITH STROKEmLETTER IOTA WITH STROK",
    "EtP WITH STROKEmCAPITAL LETTER U WITH STROKEmLETTER UPSILON WITH STROKEtB WITH PALATAL HOOKt",
    "D WITH PALATAL HOOKtF WITH PALATAL HOOKtG WITH PALATAL HOOKtK WITH PALATAL HOOKtL WITH PALAT",
    "AL HOOKtM WITH PALATAL HOOKtN WITH PALATAL HOOKtP WITH PALATAL HOOKtR WITH PALATAL HOOKtS WI",
    "TH PALATAL HOOKtESH WITH PALATAL HOOKtV WITH PALATAL HOOKtX WITH PALATAL HOOKtZ WITH PALATAL",
    " HOOKtA WITH RETROFLEX HOOKuLPHA WITH RETROFLEX HOOKtD WITH HOOK AND TAILtE WITH RETROFLEX H",
    "OOKtOPEN E WITH RETROFLEX HOOKtREVERSED OPEN E WITH RETROFLEX HOOKtSCHWA WITH RETROFLEX HOOK",
    "tI WITH RETROFLEX HOOKtOPEN O WITH RETROFLEX HOOKtESH WITH RETROFLEX HOOKtU WITH RETROFLEX H",
    "OOKtEZH WITH RETROFLEX HOOKaMODIFIER LETTER SMALL TURNED ALPHAwCx WITH CURLwETHwREVERSED OPE",
    "N EwFwDOTLESS J WITH STROKEwSCRIPT GwTURNED HwI WITH STROKExOTAwCAPITAL Izg WITH STROKEwJ WI",
    "TH CROSSED-TAILwL WITH RETROFLEX HOOKzePALATAL HOOKwCAPITAL LwM WITH HOOKwTURNED M WITH LONG",
    " LEGwN WITH LEFT HOOKzeRETROFLEX HOOKwCAPITAL NwBARRED OwPHIwS WITH HOOKwESHwT WITH PALATAL ",
    "HOOKwU BARxPSILONwCAPITAL UwV WITH HOOKwTURNED VwZx WITH RETROFLEX HOOKzeCURLwEZHwTHETAaCOMB",
    "INING DOTTED GRAVE ACCENTrACUTE ACCENTkSNAKE BELOWlUSPENSION MARKkMACRON-ACUTEkGRAVE-MACRONk",
    "MACRON-GRAVEkACUTE-MACRONkGRAVE-ACUTE-GRAVEkACUTE-GRAVE-ACUTEkLATIN SMALL LETTER R BELOWkBRE",
    "VE-MACRONkMACRON-BREVEkDOUBLE CIRCUMFLEX ABOVEkOGONEK ABOVEkZIGZAG BELOWkIS BELOWkUR ABOVElS",
    " ABOVEkLATIN SMALL LETTER FLATTENED OPEN A ABOVEzeAEzfOzfVzeC CEDILLAzeINSULAR DzeETHzeGqLET",
    "TER SMALL CAPITAL GqSMALL LETTER KzeLqLETTER SMALL CAPITAL LzmMqSMALL LETTER NqLETTER SMALL ",
    "CAPITAL NzmRqSMALL LETTER R ROTUNDAzeSzeLONG SzeZzeALPHAzeBzfETAzeSCHWAzeFzeL WITH DOUBLE MI",
    "DDLE TILDEzeO WITH LIGHT CENTRALIZATION STROKEzePzeESHzeU WITH LIGHT CENTRALIZATION STROKEze",
    "WzeA WITH DIAERESISzeO WITH DIAERESISzeU WITH DIAERESISkUP TACK ABOVEkKAVYKA ABOVE RIGHTxLEF",
    "TkDOT ABOVE LEFTkWIDE INVERTED BRIDGE BELOWkDOT BELOW LEFTlELETION MARKlOUBLE INVERTED BREVE",
    " BELOWkALMOST EQUAL TO BELOWkLEFT ARROWHEAD ABOVEkRIGHT ARROWHEAD AND DOWN ARROWHEAD BELOWaL",
    "ATIN CAPITAL LETTER A WITH RING BELOWgSMALL LETTER A WITH RING BELOWgCAPITAL LETTER B WITH D",
    "OT ABOVEgSMALL LETTER B WITH DOT ABOVEgCAPITAL LETTER B WITH DOT BELOWgSMALL LETTER B WITH D",
    "OT BELOWgCAPITAL LETTER B WITH LINE BELOWgSMALL LETTER B WITH LINE BELOWgCAPITAL LETTER C WI",
    "TH CEDILLA AND ACUTEgSMALL LETTER C WITH CEDILLA AND ACUTEgCAPITAL LETTER D WITH DOT ABOVEgS",
    "MALL LETTER D WITH DOT ABOVEgCAPITAL LETTER D WITH DOT BELOWgSMALL LETTER D WITH DOT BELOWgC",
    "APITAL LETTER D WITH LINE BELOWgSMALL LETTER D WITH LINE BELOWgCAPITAL LETTER D WITH CEDILLA",
    "gSMALL LETTER D WITH CEDILLAgCAPITAL LETTER D WITH CIRCUMFLEX BELOWgSMALL LETTER D WITH CIRC",
    "UMFLEX BELOWgCAPITAL LETTER E WITH MACRON AND GRAVEgSMALL LETTER E WITH MACRON AND GRAVEgCAP",
    "ITAL LETTER E WITH MACRON AND ACUTEgSMALL LETTER E WITH MACRON AND ACUTEgCAPITAL LETTER E WI",
    "TH CIRCUMFLEX BELOWgSMALL LETTER E WITH CIRCUMFLEX BELOWgCAPITAL LETTER E WITH TILDE BELOWgS",
    "MALL LETTER E WITH TILDE BELOWgCAPITAL LETTER E WITH CEDILLA AND BREVEgSMALL LETTER E WITH C",
    "EDILLA AND BREVEgCAPITAL LETTER F WITH DOT ABOVEgSMALL LETTER F WITH DOT ABOVEgCAPITAL LETTE",
    "R G WITH MACRONgSMALL LETTER G WITH MACRONgCAPITAL LETTER H WITH DOT ABOVEgSMALL LETTER H WI",
    "TH DOT ABOVEgCAPITAL LETTER H WITH DOT BELOWgSMALL LETTER H WITH DOT BELOWgCAPITAL LETTER H ",
    "WITH DIAERESISgSMALL LETTER H WITH DIAERESISgCAPITAL LETTER H WITH CEDILLAgSMALL LETTER H WI",
    "TH CEDILLAgCAPITAL LETTER H WITH BREVE BELOWgSMALL LETTER H WITH BREVE BELOWgCAPITAL LETTER ",
    "I WITH TILDE BELOWgSMALL LETTER I WITH TILDE BELOWgCAPITAL LETTER I WITH DIAERESIS AND ACUTE",
    "gSMALL LETTER I WITH DIAERESIS AND ACUTEgCAPITAL LETTER K WITH ACUTEgSMALL LETTER K WITH ACU",
    "TEgCAPITAL LETTER K WITH DOT BELOWgSMALL LETTER K WITH DOT BELOWgCAPITAL LETTER K WITH LINE ",
    "BELOWgSMALL LETTER K WITH LINE BELOWgCAPITAL LETTER L WITH DOT BELOWgSMALL LETTER L WITH DOT",
    " BELOWgCAPITAL LETTER L WITH DOT BELOW AND MACRONgSMALL LETTER L WITH DOT BELOW AND MACRONgC",
    "APITAL LETTER L WITH LINE BELOWgSMALL LETTER L WITH LINE BELOWgCAPITAL LETTER L WITH CIRCUMF",
    "LEX BELOWgSMALL LETTER L WITH CIRCUMFLEX BELOWgCAPITAL LETTER M WITH ACUTEgSMALL LETTER M WI",
    "TH ACUTEgCAPITAL LETTER M WITH DOT ABOVEgSMALL LETTER M WITH DOT ABOVEgCAPITAL LETTER M WITH",
    " DOT BELOWgSMALL LETTER M WITH DOT BELOWgCAPITAL LETTER N WITH DOT ABOVEgSMALL LETTER N WITH",
    " DOT ABOVEgCAPITAL LETTER N WITH DOT BELOWgSMALL LETTER N WITH DOT BELOWgCAPITAL LETTER N WI",
    "TH LINE BELOWgSMALL LETTER N WITH LINE BELOWgCAPITAL LETTER N WITH CIRCUMFLEX BELOWgSMALL LE",
    "TTER N WITH CIRCUMFLEX BELOWgCAPITAL LETTER O WITH TILDE AND ACUTEgSMALL LETTER O WITH TILDE",
    " AND ACUTEgCAPITAL LETTER O WITH TILDE AND DIAERESISgSMALL LETTER O WITH TILDE AND DIAERESIS",
    "gCAPITAL LETTER O WITH MACRON AND GRAVEgSMALL LETTER O WITH MACRON AND GRAVEgCAPITAL LETTER ",
    "O WITH MACRON AND ACUTEgSMALL LETTER O WITH MACRON AND ACUTEgCAPITAL LETTER P WITH ACUTEgSMA",
    "LL LETTER P WITH ACUTEgCAPITAL LETTER P WITH DOT ABOVEgSMALL LETTER P WITH DOT ABOVEgCAPITAL",
    " LETTER R WITH DOT ABOVEgSMALL LETTER R WITH DOT ABOVEgCAPITAL LETTER R WITH DOT BELOWgSMALL",
    " LETTER R WITH DOT BELOWgCAPITAL LETTER R WITH DOT BELOW AND MACRONgSMALL LETTER R WITH DOT ",
    "BELOW AND MACRONgCAPITAL LETTER R WITH LINE BELOWgSMALL LETTER R WITH LINE BELOWgCAPITAL LET",
    "TER S WITH DOT ABOVEgSMALL LETTER S WITH DOT ABOVEgCAPITAL LETTER S WITH DOT BELOWgSMALL LET",
    "TER S WITH DOT BELOWgCAPITAL LETTER S WITH ACUTE AND DOT ABOVEgSMALL LETTER S WITH ACUTE AND",
    " DOT ABOVEgCAPITAL LETTER S WITH CARON AND DOT ABOVEgSMALL LETTER S WITH CARON AND DOT ABOVE",
    "gCAPITAL LETTER S WITH DOT BELOW AND DOT ABOVEgSMALL LETTER S WITH DOT BELOW AND DOT ABOVEgC",
    "APITAL LETTER T WITH DOT ABOVEgSMALL LETTER T WITH DOT ABOVEgCAPITAL LETTER T WITH DOT BELOW",
    "gSMALL LETTER T WITH DOT BELOWgCAPITAL LETTER T WITH LINE BELOWgSMALL LETTER T WITH LINE BEL",
    "OWgCAPITAL LETTER T WITH CIRCUMFLEX BELOWgSMALL LETTER T WITH CIRCUMFLEX BELOWgCAPITAL LETTE",
    "R U WITH DIAERESIS BELOWgSMALL LETTER U WITH DIAERESIS BELOWgCAPITAL LETTER U WITH TILDE BEL",
    "OWgSMALL LETTER U WITH TILDE BELOWgCAPITAL LETTER U WITH CIRCUMFLEX BELOWgSMALL LETTER U WIT",
    "H CIRCUMFLEX BELOWgCAPITAL LETTER U WITH TILDE AND ACUTEgSMALL LETTER U WITH TILDE AND ACUTE",
    "gCAPITAL LETTER U WITH MACRON AND DIAERESISgSMALL LETTER U WITH MACRON AND DIAERESISgCAPITAL",
    " LETTER V WITH TILDEgSMALL LETTER V WITH TILDEgCAPITAL LETTER V WITH DOT BELOWgSMALL LETTER ",
    "V WITH DOT BELOWgCAPITAL LETTER W WITH GRAVEgSMALL LETTER W WITH GRAVEgCAPITAL LETTER W WITH",
    " ACUTEgSMALL LETTER W WITH ACUTEgCAPITAL LETTER W WITH DIAERESISgSMALL LETTER W WITH DIAERES",
    "ISgCAPITAL LETTER W WITH DOT ABOVEgSMALL LETTER W WITH DOT ABOVEgCAPITAL LETTER W WITH DOT B",
    "ELOWgSMALL LETTER W WITH DOT BELOWgCAPITAL LETTER X WITH DOT ABOVEgSMALL LETTER X WITH DOT A",
    "BOVEgCAPITAL LETTER X WITH DIAERESISgSMALL LETTER X WITH DIAERESISgCAPITAL LETTER Y WITH DOT",
    " ABOVEgSMALL LETTER Y WITH DOT ABOVEgCAPITAL LETTER Z WITH CIRCUMFLEXgSMALL LETTER Z WITH CI",
    "RCUMFLEXgCAPITAL LETTER Z WITH DOT BELOWgSMALL LETTER Z WITH DOT BELOWgCAPITAL LETTER Z WITH",
    " LINE BELOWgSMALL LETTER Z WITH LINE BELOWtH WITH LINE BELOWtT WITH DIAERESIStW WITH RING AB",
    "OVEtY WITH RING ABOVEtA WITH RIGHT HALF RINGtLONG S WITH DOT ABOVEzhIAGONAL STROKEzgHIGH STR",
    "OKEgCAPITAL LETTER SHARP SgSMALL LETTER DELTAgCAPITAL LETTER A WITH DOT BELOWgSMALL LETTER A",
    " WITH DOT BELOWgCAPITAL LETTER A WITH HOOK ABOVEgSMALL LETTER A WITH HOOK ABOVEgCAPITAL LETT",
    "ER A WITH CIRCUMFLEX AND ACUTEgSMALL LETTER A WITH CIRCUMFLEX AND ACUTEgCAPITAL LETTER A WIT",
    "H CIRCUMFLEX AND GRAVEgSMALL LETTER A WITH CIRCUMFLEX AND GRAVEgCAPITAL LETTER A WITH CIRCUM",
    "FLEX AND HOOK ABOVEgSMALL LETTER A WITH CIRCUMFLEX AND HOOK ABOVEgCAPITAL LETTER A WITH CIRC",
    "UMFLEX AND TILDEgSMALL LETTER A WITH CIRCUMFLEX AND TILDEgCAPITAL LETTER A WITH CIRCUMFLEX A",
    "ND DOT BELOWgSMALL LETTER A WITH CIRCUMFLEX AND DOT BELOWgCAPITAL LETTER A WITH BREVE AND AC",
    "UTEgSMALL LETTER A WITH BREVE AND ACUTEgCAPITAL LETTER A WITH BREVE AND GRAVEgSMALL LETTER A",
    " WITH BREVE AND GRAVEgCAPITAL LETTER A WITH BREVE AND HOOK ABOVEgSMALL LETTER A WITH BREVE A",
    "ND HOOK ABOVEgCAPITAL LETTER A WITH BREVE AND TILDEgSMALL LETTER A WITH BREVE AND TILDEgCAPI",
    "TAL LETTER A WITH BREVE AND DOT BELOWgSMALL LETTER A WITH BREVE AND DOT BELOWgCAPITAL LETTER",
    " E WITH DOT BELOWgSMALL LETTER E WITH DOT BELOWgCAPITAL LETTER E WITH HOOK ABOVEgSMALL LETTE",
    "R E WITH HOOK ABOVEgCAPITAL LETTER E WITH TILDEgSMALL LETTER E WITH TILDEgCAPITAL LETTER E W",
    "ITH CIRCUMFLEX AND ACUTEgSMALL LETTER E WITH CIRCUMFLEX AND ACUTEgCAPITAL LETTER E WITH CIRC",
    "UMFLEX AND GRAVEgSMALL LETTER E WITH CIRCUMFLEX AND GRAVEgCAPITAL LETTER E WITH CIRCUMFLEX A",
    "ND HOOK ABOVEgSMALL LETTER E WITH CIRCUMFLEX AND HOOK ABOVEgCAPITAL LETTER E WITH CIRCUMFLEX",
    " AND TILDEgSMALL LETTER E WITH CIRCUMFLEX AND TILDEgCAPITAL LETTER E WITH CIRCUMFLEX AND DOT",
    " BELOWgSMALL LETTER E WITH CIRCUMFLEX AND DOT BELOWgCAPITAL LETTER I WITH HOOK ABOVEgSMALL L",
    "ETTER I WITH HOOK ABOVEgCAPITAL LETTER I WITH DOT BELOWgSMALL LETTER I WITH DOT BELOWgCAPITA",
    "L LETTER O WITH DOT BELOWgSMALL LETTER O WITH DOT BELOWgCAPITAL LETTER O WITH HOOK ABOVEgSMA",
    "LL LETTER O WITH HOOK ABOVEgCAPITAL LETTER O WITH CIRCUMFLEX AND ACUTEgSMALL LETTER O WITH C",
    "IRCUMFLEX AND ACUTEgCAPITAL LETTER O WITH CIRCUMFLEX AND GRAVEgSMALL LETTER O WITH CIRCUMFLE",
    "X AND GRAVEgCAPITAL LETTER O WITH CIRCUMFLEX AND HOOK ABOVEgSMALL LETTER O WITH CIRCUMFLEX A",
    "ND HOOK ABOVEgCAPITAL LETTER O WITH CIRCUMFLEX AND TILDEgSMALL LETTER O WITH CIRCUMFLEX AND ",
    "TILDEgCAPITAL LETTER O WITH CIRCUMFLEX AND DOT BELOWgSMALL LETTER O WITH CIRCUMFLEX AND DOT ",
    "BELOWgCAPITAL LETTER O WITH HORN AND ACUTEgSMALL LETTER O WITH HORN AND ACUTEgCAPITAL LETTER",
    " O WITH HORN AND GRAVEgSMALL LETTER O WITH HORN AND GRAVEgCAPITAL LETTER O WITH HORN AND HOO",
    "K ABOVEgSMALL LETTER O WITH HORN AND HOOK ABOVEgCAPITAL LETTER O WITH HORN AND TILDEgSMALL L",
    "ETTER O WITH HORN AND TILDEgCAPITAL LETTER O WITH HORN AND DOT BELOWgSMALL LETTER O WITH HOR",
    "N AND DOT BELOWgCAPITAL LETTER U WITH DOT BELOWgSMALL LETTER U WITH DOT BELOWgCAPITAL LETTER",
    " U WITH HOOK ABOVEgSMALL LETTER U WITH HOOK ABOVEgCAPITAL LETTER U WITH HORN AND ACUTEgSMALL",
    " LETTER U WITH HORN AND ACUTEgCAPITAL LETTER U WITH HORN AND GRAVEgSMALL LETTER U WITH HORN ",
    "AND GRAVEgCAPITAL LETTER U WITH HORN AND HOOK ABOVEgSMALL LETTER U WITH HORN AND HOOK ABOVEg",
    "CAPITAL LETTER U WITH HORN AND TILDEgSMALL LETTER U WITH HORN AND TILDEgCAPITAL LETTER U WIT",
    "H HORN AND DOT BELOWgSMALL LETTER U WITH HORN AND DOT BELOWgCAPITAL LETTER Y WITH GRAVEgSMAL",
    "L LETTER Y WITH GRAVEgCAPITAL LETTER Y WITH DOT BELOWgSMALL LETTER Y WITH DOT BELOWgCAPITAL ",
    "LETTER Y WITH HOOK ABOVEgSMALL LETTER Y WITH HOOK ABOVEgCAPITAL LETTER Y WITH TILDEgSMALL LE",
    "TTER Y WITH TILDEgCAPITAL LETTER MIDDLE-WELSH LLgSMALL LETTER MIDDLE-WELSH LLgCAPITAL LETTER",
    " MIDDLE-WELSH VgSMALL LETTER MIDDLE-WELSH VgCAPITAL LETTER Y WITH LOOPgSMALL LETTER Y WITH L",
    "OOPaGREEK SMALL LETTER ALPHA WITH PSILIzfDASIAzfPSILI AND VARIAzfDASIA AND VARIAzfPSILI AND ",
    "OXIAzfDASIA AND OXIAzfPSILI AND PERISPOMENIzfDASIA AND PERISPOMENIgCAPITAL LETTER ALPHA WITH",
    " PSILIzhDASIAzhPSILI AND VARIAzhDASIA AND VARIAzhPSILI AND OXIAzhDASIA AND OXIAzhPSILI AND P",
    "ERISPOMENIzhDASIA AND PERISPOMENIgSMALL LETTER EPSILON WITH PSILIzhDASIAzhPSILI AND VARIAzhD",
    "ASIA AND VARIAzhPSILI AND OXIAzhDASIA AND OXIA..gCAPITAL LETTER EPSILON WITH PSILIzjDASIAzjP",
    "SILI AND VARIAzjDASIA AND VARIAzjPSILI AND OXIAzjDASIA AND OXIA..gSMALL LETTER ETA WITH PSIL",
    "IzdDASIAzdPSILI AND VARIAzdDASIA AND VARIAzdPSILI AND OXIAzdDASIA AND OXIAzdPSILI AND PERISP",
    "OMENIzdDASIA AND PERISPOMENIgCAPITAL LETTER ETA WITH PSILIzfDASIAzfPSILI AND VARIAzfDASIA AN",
    "D VARIAzfPSILI AND OXIAzfDASIA AND OXIAzfPSILI AND PERISPOMENIzfDASIA AND PERISPOMENIgSMALL ",
    "LETTER IOTA WITH PSILIzeDASIAzePSILI AND VARIAzeDASIA AND VARIAzePSILI AND OXIAzeDASIA AND O",
    "XIAzePSILI AND PERISPOMENIzeDASIA AND PERISPOMENIgCAPITAL LETTER IOTA WITH PSILIzgDASIAzgPSI",
    "LI AND VARIAzgDASIA AND VARIAzgPSILI AND OXIAzgDASIA AND OXIAzgPSILI AND PERISPOMENIzgDASIA ",
    "AND PERISPOMENIgSMALL LETTER OMICRON WITH PSILIzhDASIAzhPSILI AND VARIAzhDASIA AND VARIAzhPS",
    "ILI AND OXIAzhDASIA AND OXIA..gCAPITAL LETTER OMICRON WITH PSILIzjDASIAzjPSILI AND VARIAzjDA",
    "SIA AND VARIAzjPSILI AND OXIAzjDASIA AND OXIA..gSMALL LETTER UPSILON WITH PSILIzhDASIAzhPSIL",
    "I AND VARIAzhDASIA AND VARIAzhPSILI AND OXIAzhDASIA AND OXIAzhPSILI AND PERISPOMENIzhDASIA A",
    "ND PERISPOMENI.gCAPITAL LETTER UPSILON WITH DASIA.zo AND VARIA.ztOXIA.ztPERISPOMENIgSMALL LE",
    "TTER OMEGA WITH PSILIzfDASIAzfPSILI AND VARIAzfDASIA AND VARIAzfPSILI AND OXIAzfDASIA AND OX",
    "IAzfPSILI AND PERISPOMENIzfDASIA AND PERISPOMENIgCAPITAL LETTER OMEGA WITH PSILIzhDASIAzhPSI",
    "LI AND VARIAzhDASIA AND VARIAzhPSILI AND OXIAzhDASIA AND OXIAzhPSILI AND PERISPOMENIzhDASIA ",
    "AND PERISPOMENIgSMALL LETTER ALPHA WITH VARIAzfOXIAtEPSILON WITH VARIAzhOXIAuTA WITH VARIAzd",
    "OXIAtIOTA WITH VARIAzeOXIAtOMICRON WITH VARIAzhOXIAtUPSILON WITH VARIAzhOXIAtOMEGA WITH VARI",
    "AzfOXIA..tALPHA WITH PSILI AND YPOGEGRAMMENIzfDASIA AND YPOGEGRAMMENIzfPSILI AND VARIA AND Y",
    "POGEGRAMMENIzfDASIA AND VARIA AND YPOGEGRAMMENIzfPSILI AND OXIA AND YPOGEGRAMMENIzfDASIA AND",
    " OXIA AND YPOGEGRAMMENIzfPSILI AND PERISPOMENI AND YPOGEGRAMMENIzfDASIA AND PERISPOMENI AND ",
    "YPOGEGRAMMENIgCAPITAL LETTER ALPHA WITH PSILI AND PROSGEGRAMMENIzhDASIA AND PROSGEGRAMMENIzh",
    "PSILI AND VARIA AND PROSGEGRAMMENIzhDASIA AND VARIA AND PROSGEGRAMMENIzhPSILI AND OXIA AND P",
    "ROSGEGRAMMENIzhDASIA AND OXIA AND PROSGEGRAMMENIzhPSILI AND PERISPOMENI AND PROSGEGRAMMENIzh",
    "DASIA AND PERISPOMENI AND PROSGEGRAMMENIgSMALL LETTER ETA WITH PSILI AND YPOGEGRAMMENIzdDASI",
    "A AND YPOGEGRAMMENIzdPSILI AND VARIA AND YPOGEGRAMMENIzdDASIA AND VARIA AND YPOGEGRAMMENIzdP",
    "SILI AND OXIA AND YPOGEGRAMMENIzdDASIA AND OXIA AND YPOGEGRAMMENIzdPSILI AND PERISPOMENI AND",
    " YPOGEGRAMMENIzdDASIA AND PERISPOMENI AND YPOGEGRAMMENIgCAPITAL LETTER ETA WITH PSILI AND PR",
    "OSGEGRAMMENIzfDASIA AND PROSGEGRAMMENIzfPSILI AND VARIA AND PROSGEGRAMMENIzfDASIA AND VARIA ",
    "AND PROSGEGRAMMENIzfPSILI AND OXIA AND PROSGEGRAMMENIzfDASIA AND OXIA AND PROSGEGRAMMENIzfPS",
    "ILI AND PERISPOMENI AND PROSGEGRAMMENIzfDASIA AND PERISPOMENI AND PROSGEGRAMMENIgSMALL LETTE",
    "R OMEGA WITH PSILI AND YPOGEGRAMMENIzfDASIA AND YPOGEGRAMMENIzfPSILI AND VARIA AND YPOGEGRAM",
    "MENIzfDASIA AND VARIA AND YPOGEGRAMMENIzfPSILI AND OXIA AND YPOGEGRAMMENIzfDASIA AND OXIA AN",
    "D YPOGEGRAMMENIzfPSILI AND PERISPOMENI AND YPOGEGRAMMENIzfDASIA AND PERISPOMENI AND YPOGEGRA",
    "MMENIgCAPITAL LETTER OMEGA WITH PSILI AND PROSGEGRAMMENIzhDASIA AND PROSGEGRAMMENIzhPSILI AN",
    "D VARIA AND PROSGEGRAMMENIzhDASIA AND VARIA AND PROSGEGRAMMENIzhPSILI AND OXIA AND PROSGEGRA",
    "MMENIzhDASIA AND OXIA AND PROSGEGRAMMENIzhPSILI AND PERISPOMENI AND PROSGEGRAMMENIzhDASIA AN",
    "D PERISPOMENI AND PROSGEGRAMMENIgSMALL LETTER ALPHA WITH VRACHYzfMACRONzfVARIA AND YPOGEGRAM",
    "MENIzfYPOGEGRAMMENIzfOXIA AND YPOGEGRAMMENI.zfPERISPOMENIzq AND YPOGEGRAMMENIgCAPITAL LETTER",
    " ALPHA WITH VRACHYzhMACRONzhVARIAzhOXIAzhPROSGEGRAMMENIgKORONISgPROSGEGRAMMENIhSILIhERISPOME",
    "NIgDIALYTIKA AND PERISPOMENIgSMALL LETTER ETA WITH VARIA AND YPOGEGRAMMENIzdYPOGEGRAMMENIzdO",
    "XIA AND YPOGEGRAMMENI.zdPERISPOMENIzo AND YPOGEGRAMMENIgCAPITAL LETTER EPSILON WITH VARIAzjO",
    "XIAwTA WITH VARIAzfOXIAzfPROSGEGRAMMENIgPSILI AND VARIAqOXIAqPERISPOMENIgSMALL LETTER IOTA W",
    "ITH VRACHYzeMACRONzeDIALYTIKA AND VARIAzsOXIA..zePERISPOMENIzeDIALYTIKA AND PERISPOMENIgCAPI",
    "TAL LETTER IOTA WITH VRACHYzgMACRONzgVARIAzgOXIA.gDASIA AND VARIAqOXIAqPERISPOMENIgSMALL LET",
    "TER UPSILON WITH VRACHYzhMACRONzhDIALYTIKA AND VARIAzvOXIAtRHO WITH PSILIzdDASIAtUPSILON WIT",
    "H PERISPOMENIzhDIALYTIKA AND PERISPOMENIgCAPITAL LETTER UPSILON WITH VRACHYzjMACRONzjVARIAzj",
    "OXIAvRHO WITH DASIAgDIALYTIKA AND VARIAuOXIAgVARIA..gSMALL LETTER OMEGA WITH VARIA AND YPOGE",
    "GRAMMENIzfYPOGEGRAMMENIzfOXIA AND YPOGEGRAMMENI.zfPERISPOMENIzq AND YPOGEGRAMMENIgCAPITAL LE",
    "TTER OMICRON WITH VARIAzjOXIAxEGA WITH VARIAzhOXIAzhPROSGEGRAMMENIgOXIAgDASIA.aEN QUADbM QUA",
    "DbN SPACEbM SPACEaTHREE-PER-EM SPACEaFOUR-PER-EM SPACEaSIX-PER-EM SPACEaFIGURE SPACEaPUNCTUA",
    "TION SPACEaTHIN SPACEaHAIR SPACEaZERO WIDTH SPACElNON-JOINERlJOINERaLEFT-TO-RIGHT MARKaRIGHT",
    "-TO-LEFT MARKaHYPHENaNON-BREAKING HYPHENaFIGURE DASHaEN DASHbM DASHaHORIZONTAL BARaDOUBLE VE",
    "RTICAL LINEhLOW LINEaLEFT SINGLE QUOTATION MARKaRIGHT SINGLE QUOTATION MARKaSINGLE LOW-9 QUO",
    "TATION MARKhHIGH-REVERSED-9 QUOTATION MARKaLEFT DOUBLE QUOTATION MARKaRIGHT DOUBLE QUOTATION",
    " MARKaDOUBLE LOW-9 QUOTATION MARKhHIGH-REVERSED-9 QUOTATION MARKbAGGERbOUBLE DAGGERaBULLETaT",
    "RIANGULAR BULLETaONE DOT LEADERaTWO DOT LEADERaHORIZONTAL ELLIPSISbYPHENATION POINTaLINE SEP",
    "ARATORaPARAGRAPH SEPARATORaLEFT-TO-RIGHT EMBEDDINGaRIGHT-TO-LEFT EMBEDDINGaPOP DIRECTIONAL F",
    "ORMATTINGaLEFT-TO-RIGHT OVERRIDEaRIGHT-TO-LEFT OVERRIDEaNARROW NO-BREAK SPACEaPER MILLE SIGN",
    "eTEN THOUSAND SIGNbRIMEaDOUBLE PRIMEaTRIPLE PRIMEaREVERSED PRIMEjDOUBLE PRIMEjTRIPLE PRIMEaC",
    "ARETaSINGLE LEFT-POINTING ANGLE QUOTATION MARKhRIGHT-POINTING ANGLE QUOTATION MARKaREFERENCE",
    " MARKaDOUBLE EXCLAMATION MARKaINTERROBANGaOVERLINEaUNDERTIEaCHARACTER TIEbARET INSERTION POI",
    "NTaASTERISMaHYPHEN BULLETaFRACTION SLASHaLEFT SQUARE BRACKET WITH QUILLaRIGHT SQUARE BRACKET",
    " WITH QUILLaDOUBLE QUESTION MARKaQUESTION EXCLAMATION MARKaEXCLAMATION QUESTION MARKaTIRONIA",
    "N SIGN ETaREVERSED PILCROW SIGNaBLACK LEFTWARDS BULLETgRIGHTWARDS BULLETaLOW ASTERISKaREVERS",
    "ED SEMICOLONaCLOSE UPaTWO ASTERISKS ALIGNED VERTICALLYaCOMMERCIAL MINUS SIGNaSWUNG DASHaINVE",
    "RTED UNDERTIEaFLOWER PUNCTUATION MARKaTHREE DOT PUNCTUATIONaQUADRUPLE PRIMEaFOUR DOT PUNCTUA",
    "TIONbIVE DOT PUNCTUATIONaTWO DOT PUNCTUATIONaFOUR DOT MARKaDOTTED CROSSaTRICOLONaVERTICAL FO",
    "UR DOTSaMEDIUM MATHEMATICAL SPACEaWORD JOINERaFUNCTION APPLICATIONaINVISIBLE TIMESkSEPARATOR",
    "kPLUS.aLEFT-TO-RIGHT ISOLATEaRIGHT-TO-LEFT ISOLATEaFIRST STRONG ISOLATEaPOP DIRECTIONAL ISOL",
    "ATEaINHIBIT SYMMETRIC SWAPPINGaACTIVATE SYMMETRIC SWAPPINGaINHIBIT ARABIC FORM SHAPINGaACTIV",
    "ATE ARABIC FORM SHAPINGaNATIONAL DIGIT SHAPESbOMINAL DIGIT SHAPESaSUPERSCRIPT ZEROmLATIN SMA",
    "LL LETTER I..mFOURnIVEmSIXnEVENmEIGHTmNINEmPLUS SIGNmMINUSmEQUALS SIGNmLEFT PARENTHESISmRIGH",
    "T PARENTHESISmLATIN SMALL LETTER NcBSCRIPT ZEROkONEkTWOlHREEkFOURlIVEkSIXlEVENkEIGHTkNINEkPL",
    "US SIGNkMINUSkEQUALS SIGNkLEFT PARENTHESISkRIGHT PARENTHESIS.aLATIN SUBSCRIPT SMALL LETTER A",
    "zeEzeOzeXzeSCHWAzeHzeKzeLzeMzeNzePzeSzeT...aEURO-CURRENCY SIGNaCOLON SIGNbRUZEIRO SIGNaFRENC",
    "H FRANC SIGNaLIRA SIGNaMILL SIGNaNAIRA SIGNaPESETA SIGNaRUPEE SIGNaWON SIGNaNEW SHEQEL SIGNa",
    "DONG SIGNaEURO SIGNaKIP SIGNaTUGRIK SIGNaDRACHMA SIGNaGERMAN PENNY SIGNaPESO SIGNaGUARANI SI",
    "GNaAUSTRAL SIGNaHRYVNIA SIGNaCEDI SIGNaLIVRE TOURNOIS SIGNaSPESMILO SIGNaTENGE SIGNaINDIAN R",
    "UPEE SIGNaTURKISH LIRA SIGNaNORDIC MARK SIGNaMANAT SIGNaRUBLE SIGNaLARI SIGNaBITCOIN SIGNaSO",
    "M SIGN...............aCOMBINING LEFT HARPOON ABOVEkRIGHT HARPOON ABOVEkLONG VERTICAL LINE OV",
    "ERLAYkSHORT VERTICAL LINE OVERLAYkANTICLOCKWISE ARROW ABOVEkCLOCKWISE ARROW ABOVEkLEFT ARROW",
    " ABOVEkRIGHT ARROW ABOVEmNG OVERLAYkCLOCKWISE RING OVERLAYkANTICLOCKWISE RING OVERLAYkTHREE ",
    "DOTS ABOVEkFOUR DOTS ABOVEkENCLOSING CIRCLEuSQUAREuDIAMONDuCIRCLE BACKSLASHkLEFT RIGHT ARROW",
    " ABOVEkENCLOSING SCREENuKEYCAPuUPWARD POINTING TRIANGLEkREVERSE SOLIDUS OVERLAYkDOUBLE VERTI",
    "CAL STROKE OVERLAYkANNUITY SYMBOLkTRIPLE UNDERDOTkWIDE BRIDGE ABOVEkLEFTWARDS ARROW OVERLAYl",
    "ONG DOUBLE SOLIDUS OVERLAYkRIGHTWARDS HARPOON WITH BARB DOWNWARDSkLEFTWARDS HARPOON WITH BAR",
    "B DOWNWARDSo ARROW BELOWkRIGHT ARROW BELOWkASTERISK ABOVE...............aACCOUNT OFbDDRESSED",
    " TO THE SUBJECTaDOUBLE-STRUCK CAPITAL CbEGREE CELSIUSaCENTRE LINE SYMBOLbARE OFcDA UNAaEULER",
    " CONSTANTaSCRUPLEaDEGREE FAHRENHEITaSCRIPT SMALL GhCAPITAL HaBLACK-LETTER CAPITAL HaDOUBLE-S",
    "TRUCK CAPITAL HaPLANCK CONSTANTp OVER TWO PIaSCRIPT CAPITAL IaBLACK-LETTER CAPITAL IaSCRIPT ",
    "CAPITAL LhSMALL LaL B BAR SYMBOLaDOUBLE-STRUCK CAPITAL NaNUMERO SIGNaSOUND RECORDING COPYRIG",
    "HTbCRIPT CAPITAL PaDOUBLE-STRUCK CAPITAL PwQaSCRIPT CAPITAL RaBLACK-LETTER CAPITAL RaDOUBLE-",
    "STRUCK CAPITAL RaPRESCRIPTION TAKEaRESPONSEaSERVICE MARKaTELEPHONE SIGNbRADE MARK SIGNaVERSI",
    "CLEaDOUBLE-STRUCK CAPITAL ZaOUNCE SIGNbHM SIGNaINVERTED OHM SIGNaBLACK-LETTER CAPITAL ZaTURN",
    "ED GREEK SMALL LETTER IOTAaKELVIN SIGNaANGSTROM SIGNaSCRIPT CAPITAL BaBLACK-LETTER CAPITAL C",
    "aESTIMATED SYMBOLaSCRIPT SMALL EhCAPITAL EpFaTURNED CAPITAL FaSCRIPT CAPITAL MhSMALL OaALEF ",
    "SYMBOLaBET SYMBOLaGIMEL SYMBOLaDALET SYMBOLaINFORMATION SOURCEaROTATED CAPITAL QaFACSIMILE S",
    "IGNaDOUBLE-STRUCK SMALL PIuGAMMAoCAPITAL GAMMAwPIoN-ARY SUMMATIONaTURNED SANS-SERIF CAPITAL ",
    "GzbLaREVERSED SANS-SERIF CAPITAL LaTURNED SANS-SERIF CAPITAL YaDOUBLE-STRUCK ITALIC CAPITAL ",
    "DvSMALL DzcEzcIzcJaPROPERTY LINEaTURNED AMPERSANDaPER SIGNaAKTIESELSKABaTURNED SMALL FaSYMBO",
    "L FOR SAMARITAN SOURCEaVULGAR FRACTION ONE SEVENTHuNINTHuTENTHvHIRDqTWO THIRDSqONE FIFTHqTWO",
    " FIFTHSrHREE FIFTHSqFOUR FIFTHSqONE SIXTHqFIVE SIXTHSqONE EIGHTHqTHREE EIGHTHSqFIVE EIGHTHSq",
    "SEVEN EIGHTHSaFRACTION NUMERATOR ONEaROMAN NUMERAL ONEoTWOpHREEoFOURpIVEoSIXpEVENoEIGHToNINE",
    "oTENoELEVENoTWELVEoFIFTYoONE HUNDREDoFIVE HUNDREDoONE THOUSANDaSMALL ROMAN NUMERAL ONEuTWOvH",
    "REEuFOURvIVEuSIXvEVENuEIGHTuNINEuTENuELEVENuTWELVEuFIFTYuONE HUNDREDuFIVE HUNDREDuONE THOUSA",
    "NDaROMAN NUMERAL ONE THOUSAND C DoFIVE THOUSANDoTEN THOUSANDoREVERSED ONE HUNDREDaLATIN SMAL",
    "L LETTER REVERSED CaROMAN NUMERAL SIX LATE FORMoFIFTY EARLY FORMuTHOUSANDoONE HUNDRED THOUSA",
    "NDaVULGAR FRACTION ZERO THIRDSaTURNED DIGIT TWOoHREE....aLEFTWARDS ARROWaUPWARDS ARROWaRIGHT",
    "WARDS ARROWaDOWNWARDS ARROWaLEFT RIGHT ARROWaUP DOWN ARROWaNORTH WEST ARROWgEAST ARROWaSOUTH",
    " EAST ARROWgWEST ARROWaLEFTWARDS ARROW WITH STROKEaRIGHTWARDS ARROW WITH STROKEaLEFTWARDS WA",
    "VE ARROWaRIGHTWARDS WAVE ARROWaLEFTWARDS TWO HEADED ARROWaUPWARDS TWO HEADED ARROWaRIGHTWARD",
    "S TWO HEADED ARROWaDOWNWARDS TWO HEADED ARROWaLEFTWARDS ARROW WITH TAILaRIGHTWARDS ARROW WIT",
    "H TAILaLEFTWARDS ARROW FROM BARaUPWARDS ARROW FROM BARaRIGHTWARDS ARROW FROM BARaDOWNWARDS A",
    "RROW FROM BARaUP DOWN ARROW WITH BASEaLEFTWARDS ARROW WITH HOOKaRIGHTWARDS ARROW WITH HOOKaL",
    "EFTWARDS ARROW WITH LOOPaRIGHTWARDS ARROW WITH LOOPaLEFT RIGHT WAVE ARROWlARROW WITH STROKEa",
    "DOWNWARDS ZIGZAG ARROWaUPWARDS ARROW WITH TIP LEFTWARDSxRIGHTWARDSaDOWNWARDS ARROW WITH TIP ",
    "LEFTWARDSzaRIGHTWARDSaRIGHTWARDS ARROW WITH CORNER DOWNWARDSaDOWNWARDS ARROW WITH CORNER LEF",
    "TWARDSaANTICLOCKWISE TOP SEMICIRCLE ARROWaCLOCKWISE TOP SEMICIRCLE ARROWaNORTH WEST ARROW TO",
    " LONG BARaLEFTWARDS ARROW TO BAR OVER RIGHTWARDS ARROW TO BARaANTICLOCKWISE OPEN CIRCLE ARRO",
    "WaCLOCKWISE OPEN CIRCLE ARROWaLEFTWARDS HARPOON WITH BARB UPWARDSzdDOWNWARDSaUPWARDS HARPOON",
    " WITH BARB RIGHTWARDSzbLEFTWARDSaRIGHTWARDS HARPOON WITH BARB UPWARDSzeDOWNWARDSaDOWNWARDS H",
    "ARPOON WITH BARB RIGHTWARDSzdLEFTWARDSaRIGHTWARDS ARROW OVER LEFTWARDS ARROWaUPWARDS ARROW L",
    "EFTWARDS OF DOWNWARDS ARROWaLEFTWARDS ARROW OVER RIGHTWARDS ARROWkPAIRED ARROWSaUPWARDS PAIR",
    "ED ARROWSaRIGHTWARDS PAIRED ARROWSaDOWNWARDS PAIRED ARROWSaLEFTWARDS HARPOON OVER RIGHTWARDS",
    " HARPOONaRIGHTWARDS HARPOON OVER LEFTWARDS HARPOONaLEFTWARDS DOUBLE ARROW WITH STROKEe RIGHT",
    " DOUBLE ARROW WITH STROKEaRIGHTWARDS DOUBLE ARROW WITH STROKEaLEFTWARDS DOUBLE ARROWaUPWARDS",
    " DOUBLE ARROWaRIGHTWARDS DOUBLE ARROWaDOWNWARDS DOUBLE ARROWaLEFT RIGHT DOUBLE ARROWaUP DOWN",
    " DOUBLE ARROWaNORTH WEST DOUBLE ARROWgEAST DOUBLE ARROWaSOUTH EAST DOUBLE ARROWgWEST DOUBLE ",
    "ARROWaLEFTWARDS TRIPLE ARROWaRIGHTWARDS TRIPLE ARROWaLEFTWARDS SQUIGGLE ARROWaRIGHTWARDS SQU",
    "IGGLE ARROWaUPWARDS ARROW WITH DOUBLE STROKEaDOWNWARDS ARROW WITH DOUBLE STROKEaLEFTWARDS DA",
    "SHED ARROWaUPWARDS DASHED ARROWaRIGHTWARDS DASHED ARROWaDOWNWARDS DASHED ARROWaLEFTWARDS ARR",
    "OW TO BARaRIGHTWARDS ARROW TO BARaLEFTWARDS WHITE ARROWaUPWARDS WHITE ARROWaRIGHTWARDS WHITE",
    " ARROWaDOWNWARDS WHITE ARROWaUPWARDS WHITE ARROW FROM BARuON PEDESTALzg WITH HORIZONTAL BARz",
    "mVERTICAL BARoDOUBLE ARROWzb ON PEDESTALaRIGHTWARDS WHITE ARROW FROM WALLaNORTH WEST ARROW T",
    "O CORNERaSOUTH EAST ARROW TO CORNERaUP DOWN WHITE ARROWaRIGHT ARROW WITH SMALL CIRCLEaDOWNWA",
    "RDS ARROW LEFTWARDS OF UPWARDS ARROWaTHREE RIGHTWARDS ARROWSaLEFTWARDS ARROW WITH VERTICAL S",
    "TROKEaRIGHTWARDS ARROW WITH VERTICAL STROKEaLEFT RIGHT ARROW WITH VERTICAL STROKEeWARDS ARRO",
    "W WITH DOUBLE VERTICAL STROKEaRIGHTWARDS ARROW WITH DOUBLE VERTICAL STROKEaLEFT RIGHT ARROW ",
    "WITH DOUBLE VERTICAL STROKEeWARDS OPEN-HEADED ARROWaRIGHTWARDS OPEN-HEADED ARROWaLEFT RIGHT ",
    "OPEN-HEADED ARROWaFOR ALLaCOMPLEMENTaPARTIAL DIFFERENTIALaTHERE EXISTSgDOES NOT EXISTaEMPTY ",
    "SETaINCREMENTaNABLAaELEMENT OFaNOT AN ELEMENT OFaSMALL ELEMENT OFaCONTAINS AS MEMBERaDOES NO",
    "T CONTAIN AS MEMBERaSMALL CONTAINS AS MEMBERaEND OF PROOFaN-ARY PRODUCTgCOPRODUCTgSUMMATIONa",
    "MINUS SIGNf-OR-PLUS SIGNaDOT PLUSbIVISION SLASHaSET MINUSaASTERISK OPERATORaRING OPERATORaBU",
    "LLET OPERATORaSQUARE ROOTaCUBE ROOTaFOURTH ROOTaPROPORTIONAL TOaINFINITYaRIGHT ANGLEaANGLEaM",
    "EASURED ANGLEaSPHERICAL ANGLEaDIVIDESbOES NOT DIVIDEaPARALLEL TOaNOT PARALLEL TOaLOGICAL AND",
    "iORaINTERSECTIONaUNIONaINTEGRALaDOUBLE INTEGRALaTRIPLE INTEGRALaCONTOUR INTEGRALaSURFACE INT",
    "EGRALaVOLUME INTEGRALaCLOCKWISE INTEGRALkCONTOUR INTEGRALaANTICLOCKWISE CONTOUR INTEGRALaTHE",
    "REFOREaBECAUSEaRATIOaPROPORTIONaDOT MINUSaEXCESSaGEOMETRIC PROPORTIONaHOMOTHETICaTILDE OPERA",
    "TORaREVERSED TILDEaINVERTED LAZY SaSINE WAVEaWREATH PRODUCTaNOT TILDEaMINUS TILDEaASYMPTOTIC",
    "ALLY EQUAL TOaNOT ASYMPTOTICALLY EQUAL TOaAPPROXIMATELY EQUAL TOoBUT NOT ACTUALLY EQUAL TOaN",
    "EITHER APPROXIMATELY NOR ACTUALLY EQUAL TOaALMOST EQUAL TOaNOT ALMOST EQUAL TOaALMOST EQUAL ",
    "OR EQUAL TOaTRIPLE TILDEaALL EQUAL TOaEQUIVALENT TOaGEOMETRICALLY EQUIVALENT TOaDIFFERENCE B",
    "ETWEENaAPPROACHES THE LIMITaGEOMETRICALLY EQUAL TOaAPPROXIMATELY EQUAL TO OR THE IMAGE OFaIM",
    "AGE OF OR APPROXIMATELY EQUAL TOaCOLON EQUALSaEQUALS COLONaRING IN EQUAL TOfEQUAL TOaCORRESP",
    "ONDS TOaESTIMATESbQUIANGULAR TOaSTAR EQUALSaDELTA EQUAL TOaEQUAL TO BY DEFINITIONaMEASURED B",
    "YaQUESTIONED EQUAL TOaNOT EQUAL TOaIDENTICAL TOaNOT IDENTICAL TOaSTRICTLY EQUIVALENT TOaLESS",
    "-THAN OR EQUAL TOaGREATER-THAN OR EQUAL TOaLESS-THAN OVER EQUAL TOaGREATER-THAN OVER EQUAL T",
    "OaLESS-THAN BUT NOT EQUAL TOaGREATER-THAN BUT NOT EQUAL TOaMUCH LESS-THANfGREATER-THANaBETWE",
    "ENaNOT EQUIVALENT TOeLESS-THANeGREATER-THANbEITHER LESS-THAN NOR EQUAL TOiGREATER-THAN NOR E",
    "QUAL TOaLESS-THAN OR EQUIVALENT TOaGREATER-THAN OR EQUIVALENT TOaNEITHER LESS-THAN NOR EQUIV",
    "ALENT TOiGREATER-THAN NOR EQUIVALENT TOaLESS-THAN OR GREATER-THANaGREATER-THAN OR LESS-THANa",
    "NEITHER LESS-THAN NOR GREATER-THANiGREATER-THAN NOR LESS-THANaPRECEDESaSUCCEEDSaPRECEDES OR ",
    "EQUAL TOaSUCCEEDS OR EQUAL TOaPRECEDES OR EQUIVALENT TOaSUCCEEDS OR EQUIVALENT TOaDOES NOT P",
    "RECEDEjSUCCEEDaSUBSET OFcPERSET OFaNOT A SUBSET OFiPERSET OFaSUBSET OF OR EQUAL TOcPERSET OF",
    " OR EQUAL TOaNEITHER A SUBSET OF NOR EQUAL TOmPERSET OF NOR EQUAL TOaSUBSET OF WITH NOT EQUA",
    "L TOcPERSET OF WITH NOT EQUAL TOaMULTISETi MULTIPLICATIONjUNIONaSQUARE IMAGE OFhORIGINAL OFh",
    "IMAGE OF OR EQUAL TOhORIGINAL OF OR EQUAL TOhCAPiUPaCIRCLED PLUSiMINUSiTIMESiDIVISION SLASHj",
    "OT OPERATORiRING OPERATORiASTERISK OPERATORiEQUALSiDASHaSQUARED PLUSiMINUSiTIMESiDOT OPERATO",
    "RaRIGHT TACKaLEFT TACKaDOWN TACKaUP TACKaASSERTIONaMODELSaTRUEaFORCESaTRIPLE VERTICAL BAR RI",
    "GHT TURNSTILEaDOUBLE VERTICAL BAR DOUBLE RIGHT TURNSTILEcES NOT PROVEaNOT TRUEaDOES NOT FORC",
    "EaNEGATED DOUBLE VERTICAL BAR DOUBLE RIGHT TURNSTILEaPRECEDES UNDER RELATIONaSUCCEEDS UNDER ",
    "RELATIONaNORMAL SUBGROUP OFaCONTAINS AS NORMAL SUBGROUPaNORMAL SUBGROUP OF OR EQUAL TOaCONTA",
    "INS AS NORMAL SUBGROUP OR EQUAL TOaORIGINAL OFaIMAGE OFaMULTIMAPaHERMITIAN CONJUGATE MATRIXa",
    "INTERCALATEaXORaNANDbORaRIGHT ANGLE WITH ARCgTRIANGLEaN-ARY LOGICAL ANDoORgINTERSECTIONgUNIO",
    "NaDIAMOND OPERATORbOT OPERATORaSTAR OPERATORaDIVISION TIMESaBOWTIEaLEFT NORMAL FACTOR SEMIDI",
    "RECT PRODUCTaRIGHT NORMAL FACTOR SEMIDIRECT PRODUCTaLEFT SEMIDIRECT PRODUCTaRIGHT SEMIDIRECT",
    " PRODUCTbEVERSED TILDE EQUALSaCURLY LOGICAL ORoANDaDOUBLE SUBSETjPERSEThINTERSECTIONhUNIONaP",
    "ITCHFORKaEQUAL AND PARALLEL TOaLESS-THAN WITH DOTaGREATER-THAN WITH DOTaVERY MUCH LESS-THANk",
    "GREATER-THANaLESS-THAN EQUAL TO OR GREATER-THANaGREATER-THAN EQUAL TO OR LESS-THANaEQUAL TO ",
    "OR LESS-THANmGREATER-THANmPRECEDESmSUCCEEDSaDOES NOT PRECEDE OR EQUALjSUCCEED OR EQUALaNOT S",
    "QUARE IMAGE OF OR EQUAL TOlORIGINAL OF OR EQUAL TOaSQUARE IMAGE OF OR NOT EQUAL TOhORIGINAL ",
    "OF OR NOT EQUAL TOaLESS-THAN BUT NOT EQUIVALENT TOaGREATER-THAN BUT NOT EQUIVALENT TOaPRECED",
    "ES BUT NOT EQUIVALENT TOaSUCCEEDS BUT NOT EQUIVALENT TOaNOT NORMAL SUBGROUP OFaDOES NOT CONT",
    "AIN AS NORMAL SUBGROUPaNOT NORMAL SUBGROUP OF OR EQUAL TOaDOES NOT CONTAIN AS NORMAL SUBGROU",
    "P OR EQUALaVERTICAL ELLIPSISaMIDLINE HORIZONTAL ELLIPSISaUP RIGHT DIAGONAL ELLIPSISaDOWN RIG",
    "HT DIAGONAL ELLIPSISaELEMENT OF WITH LONG HORIZONTAL STROKEqVERTICAL BAR AT END OF HORIZONTA",
    "L STROKEaSMALL ELEMENT OF WITH VERTICAL BAR AT END OF HORIZONTAL STROKEaELEMENT OF WITH DOT ",
    "ABOVEqOVERBARaSMALL ELEMENT OF WITH OVERBARaELEMENT OF WITH UNDERBARqTWO HORIZONTAL STROKESa",
    "CONTAINS WITH LONG HORIZONTAL STROKEoVERTICAL BAR AT END OF HORIZONTAL STROKEaSMALL CONTAINS",
    " WITH VERTICAL BAR AT END OF HORIZONTAL STROKEaCONTAINS WITH OVERBARaSMALL CONTAINS WITH OVE",
    "RBARaZ NOTATION BAG MEMBERSHIPaDIAMETER SIGNaELECTRIC ARROWaHOUSEaUP ARROWHEADaDOWN ARROWHEA",
    "DaPROJECTIVEbERSPECTIVEaWAVY LINEaLEFT CEILINGaRIGHT CEILINGaLEFT FLOORaRIGHT FLOORaBOTTOM R",
    "IGHT CROPhLEFT CROPaTOP RIGHT CROPeLEFT CROPaREVERSED NOT SIGNaSQUARE LOZENGEaARCaSEGMENTcCT",
    "ORaTELEPHONE RECORDERaPOSITION INDICATORaVIEWDATA SQUAREaPLACE OF INTEREST SIGNaTURNED NOT S",
    "IGNaWATCHaHOURGLASSaTOP LEFT CORNEReRIGHT CORNERaBOTTOM LEFT CORNERhRIGHT CORNERaTOP HALF IN",
    "TEGRALaBOTTOM HALF INTEGRALaFROWNaSMILEaUP ARROWHEAD BETWEEN TWO HORIZONTAL BARSaOPTION KEYa",
    "ERASE TO THE RIGHTaX IN A RECTANGLE BOXaKEYBOARDaLEFT-POINTING ANGLE BRACKETaRIGHT-POINTING ",
    "ANGLE BRACKETaERASE TO THE LEFTaBENZENE RINGaCYLINDRICITYaALL AROUND-PROFILEaSYMMETRYaTOTAL ",
    "RUNOUTaDIMENSION ORIGINaCONICAL TAPERaSLOPEaCOUNTERBOREhSINKaAPL FUNCTIONAL SYMBOL I-BEAMwSQ",
    "UISH QUADwQUAD EQUALzcDIVIDEzeAMONDzcJOTzcCIRCLEwCIRCLE STILEzeJOTwSLASH BARwBACKSLASH BARwQ",
    "UAD SLASHzcBACKSLASHzcLESS-THANzcGREATER-THANwLEFTWARDS VANEwRIGHTWARDS VANEwQUAD LEFTWARDS ",
    "ARROWzcRIGHTWARDS ARROWwCIRCLE BACKSLASHwDOWN TACK UNDERBARxELTA STILEwQUAD DOWN CARETzdELTA",
    "wDOWN TACK JOTwUPWARDS VANEwQUAD UPWARDS ARROWwUP TACK OVERBARwDEL STILEwQUAD UP CARETzcDELw",
    "UP TACK JOTwDOWNWARDS VANEwQUAD DOWNWARDS ARROWyOTE UNDERBARwDELTA UNDERBARxIAMOND UNDERBARw",
    "JOT UNDERBARwCIRCLE UNDERBARwUP SHOE JOTwQUOTE QUADwCIRCLE STARwQUAD COLONwUP TACK DIAERESIS",
    "wDEL DIAERESISwSTAR DIAERESISwJOT DIAERESISwCIRCLE DIAERESISwDOWN SHOE STILEwLEFT SHOE STILE",
    "wTILDE DIAERESISwGREATER-THAN DIAERESISwCOMMA BARwDEL TILDEwZILDEwSTILE TILDExEMICOLON UNDER",
    "BARwQUAD NOT EQUALzcQUESTIONwDOWN CARET TILDEwUP CARET TILDEwIOTAwRHOwOMEGAwALPHA UNDERBARwE",
    "PSILON UNDERBARwIOTA UNDERBARwOMEGA UNDERBARwALPHAaNOT CHECK MARKaRIGHT ANGLE WITH DOWNWARDS",
    " ZIGZAG ARROWaSHOULDERED OPEN BOXaBELL SYMBOLaVERTICAL LINE WITH MIDDLE DOTaINSERTION SYMBOL",
    "aCONTINUOUS UNDERLINE SYMBOLaDISCONTINUOUS UNDERLINE SYMBOLaEMPHASIS SYMBOLaCOMPOSITION SYMB",
    "OLaWHITE SQUARE WITH CENTRE VERTICAL LINEaENTER SYMBOLaALTERNATIVE KEY SYMBOLaHELM SYMBOLaCI",
    "RCLED HORIZONTAL BAR WITH NOTCHiTRIANGLE DOWNaBROKEN CIRCLE WITH NORTHWEST ARROWaUNDO SYMBOL",
    "aMONOSTABLE SYMBOLaHYSTERESIS SYMBOLaOPEN-CIRCUIT-OUTPUT H-TYPE SYMBOLuL-TYPE SYMBOLaPASSIVE",
    "-PULL-DOWN-OUTPUT SYMBOLnUP-OUTPUT SYMBOLaDIRECT CURRENT SYMBOL FORM TWOaSOFTWARE-FUNCTION S",
    "YMBOLaAPL FUNCTIONAL SYMBOL QUADaDECIMAL SEPARATOR KEY SYMBOLaPREVIOUS PAGEaNEXT PAGEaPRINT ",
    "SCREEN SYMBOLaCLEAR SCREEN SYMBOLaLEFT PARENTHESIS UPPER HOOKrEXTENSIONrLOWER HOOKaRIGHT PAR",
    "ENTHESIS UPPER HOOKsEXTENSIONsLOWER HOOKaLEFT SQUARE BRACKET UPPER CORNERuEXTENSIONuLOWER CO",
    "RNERaRIGHT SQUARE BRACKET UPPER CORNERvEXTENSIONvLOWER CORNERaLEFT CURLY BRACKET UPPER HOOKt",
    "MIDDLE PIECEtLOWER HOOKaCURLY BRACKET EXTENSIONaRIGHT CURLY BRACKET UPPER HOOKuMIDDLE PIECEu",
    "LOWER HOOKaINTEGRAL EXTENSIONaHORIZONTAL LINE EXTENSIONaUPPER LEFT OR LOWER RIGHT CURLY BRAC",
    "KET SECTIONgRIGHT OR LOWER LEFT CURLY BRACKET SECTIONaSUMMATION TOPkBOTTOMaTOP SQUARE BRACKE",
    "TaBOTTOM SQUARE BRACKETv OVER TOP SQUARE BRACKETaRADICAL SYMBOL BOTTOMaLEFT VERTICAL BOX LIN",
    "EaRIGHT VERTICAL BOX LINEaHORIZONTAL SCAN LINE-1v3v7v9aDENTISTRY SYMBOL LIGHT VERTICAL AND T",
    "OP RIGHTzlBOTTOM RIGHTzhWITH CIRCLExDOWN AND HORIZONTAL WITH CIRCLExUP AND HORIZONTAL WITH C",
    "IRCLExVERTICAL WITH TRIANGLExDOWN AND HORIZONTAL WITH TRIANGLExUP AND HORIZONTAL WITH TRIANG",
    "LExVERTICAL AND WAVExDOWN AND HORIZONTAL WITH WAVExUP AND HORIZONTAL WITH WAVExDOWN AND HORI",
    "ZONTALxUP AND HORIZONTALxVERTICAL AND TOP LEFTzlBOTTOM LEFTaSQUARE FOOTaRETURN SYMBOLaEJECT ",
    "SYMBOLaVERTICAL LINE EXTENSIONaMETRICAL BREVEjLONG OVER SHORTjSHORT OVER LONGjLONG OVER TWO ",
    "SHORTSjTWO SHORTS OVER LONGuJOINEDkRISEMEkETRASEMEjPENTASEMEaEARTH GROUNDaFUSEaTOP PARENTHES",
    "ISaBOTTOM PARENTHESISaTOP CURLY BRACKETaBOTTOM CURLY BRACKETaTOP TORTOISE SHELL BRACKETaBOTT",
    "OM TORTOISE SHELL BRACKETaWHITE TRAPEZIUMaBENZENE RING WITH CIRCLEaSTRAIGHTNESSaFLATNESSaAC ",
    "CURRENTaELECTRICAL INTERSECTIONaDECIMAL EXPONENT SYMBOLaBLACK RIGHT-POINTING DOUBLE TRIANGLE",
    "gLEFT-POINTING DOUBLE TRIANGLEgUP-POINTING DOUBLE TRIANGLEgDOWN-POINTING DOUBLE TRIANGLEgRIG",
    "HT-POINTING DOUBLE TRIANGLE WITH VERTICAL BARgLEFT-POINTING DOUBLE TRIANGLE WITH VERTICAL BA",
    "RgRIGHT-POINTING TRIANGLE WITH DOUBLE VERTICAL BARaALARM CLOCKaSTOPWATCHaTIMER CLOCKaHOURGLA",
    "SS WITH FLOWING SANDaBLACK MEDIUM LEFT-POINTING TRIANGLEnRIGHT-POINTING TRIANGLEnUP-POINTING",
    " TRIANGLEnDOWN-POINTING TRIANGLEaDOUBLE VERTICAL BARaBLACK SQUARE FOR STOPgCIRCLE FOR RECORD",
    "aPOWER SYMBOLgON-OFF SYMBOLi SYMBOLgSLEEP SYMBOLaOBSERVER EYE SYMBOLaSYMBOL FOR NULLlSTART O",
    "F HEADINGuTEXTlEND OF TEXTtRANSMISSIONnQUIRYlACKNOWLEDGElBELLmACKSPACElHORIZONTAL TABULATION",
    "lLINE FEEDlVERTICAL TABULATIONlFORM FEEDlCARRIAGE RETURNlSHIFT OUTrINlDATA LINK ESCAPEmEVICE",
    " CONTROL ONEzbTWOzcHREEzbFOURlNEGATIVE ACKNOWLEDGElSYNCHRONOUS IDLElEND OF TRANSMISSION BLOC",
    "KlCANCELlEND OF MEDIUMlSUBSTITUTElESCAPElFILE SEPARATORlGROUP SEPARATORlRECORD SEPARATORlUNI",
    "T SEPARATORlSPACElDELETEaBLANK SYMBOLaOPEN BOXaSYMBOL FOR NEWLINElDELETE FORM TWOlSUBSTITUTE",
    " FORM TWO"]),
  (0x2440, ["aOCR HOOKeCHAIReFORKeINVERTED FORKeBELT BUCKLEfOW TIEfRANCH BANK IDENTIFICATIONeAMOU",
    "NT OF CHECKeDASHeCUSTOMER ACCOUNT NUMBEReDOUBLE BACKSLASH"]),
  (0x2460, ["aCIRCLED DIGIT ONEoTWOpHREEoFOURpIVEoSIXpEVENoEIGHToNINEiNUMBER TENpELEVENpTWELVEqHI",
    "RTEENpFOURTEENqIFTEENpSIXTEENqEVENTEENpEIGHTEENpNINETEENpTWENTYaPARENTHESIZED DIGIT ONEuTWOv",
    "HREEuFOURvIVEuSIXvEVENuEIGHTuNINEoNUMBER TENvELEVENvTWELVEwHIRTEENvFOURTEENwIFTEENvSIXTEENwE",
    "VENTEENvEIGHTEENvNINETEENvTWENTYaDIGIT ONE FULL STOPgTWO FULL STOPhHREE FULL STOPgFOUR FULL ",
    "STOPhIVE FULL STOPgSIX FULL STOPhEVEN FULL STOPgEIGHT FULL STOPgNINE FULL STOPaNUMBER TEN FU",
    "LL STOPhELEVEN FULL STOPhTWELVE FULL STOPiHIRTEEN FULL STOPhFOURTEEN FULL STOPiIFTEEN FULL S",
    "TOPhSIXTEEN FULL STOPiEVENTEEN FULL STOPhEIGHTEEN FULL STOPhNINETEEN FULL STOPhTWENTY FULL S",
    "TOPaPARENTHESIZED LATIN SMALL LETTER AziBziCziDziEziFziGziHziIziJziKziLziMziNziOziPziQziRziS",
    "ziTziUziVziWziXziYziZaCIRCLED LATIN CAPITAL LETTER AzeBzeCzeDzeEzeFzeGzeHzeIzeJzeKzeLzeMzeNz",
    "eOzePzeQzeRzeSzeTzeUzeVzeWzeXzeYzeZoSMALL LETTER AzcBzcCzcDzcEzcFzcGzcHzcIzcJzcKzcLzcMzcNzcO",
    "zcPzcQzcRzcSzcTzcUzcVzcWzcXzcYzcZiDIGIT ZEROaNEGATIVE CIRCLED NUMBER ELEVENyTWELVEzaHIRTEENy",
    "FOURTEENzaIFTEENySIXTEENzaEVENTEENyEIGHTEENyNINETEENyTWENTYaDOUBLE CIRCLED DIGIT ONEvTWOwHRE",
    "EvFOURwIVEvSIXwEVENvEIGHTvNINEpNUMBER TENaNEGATIVE CIRCLED DIGIT ZEROaBOX DRAWINGS LIGHT HOR",
    "IZONTALnHEAVY HORIZONTALnLIGHT VERTICALnHEAVY VERTICALnLIGHT TRIPLE DASH HORIZONTALnHEAVY TR",
    "IPLE DASH HORIZONTALnLIGHT TRIPLE DASH VERTICALnHEAVY TRIPLE DASH VERTICALnLIGHT QUADRUPLE D",
    "ASH HORIZONTALnHEAVY QUADRUPLE DASH HORIZONTALnLIGHT QUADRUPLE DASH VERTICALnHEAVY QUADRUPLE",
    " DASH VERTICALnLIGHT DOWN AND RIGHTnDOWN LIGHT AND RIGHT HEAVYsHEAVY AND RIGHT LIGHTnHEAVY D",
    "OWN AND RIGHTnLIGHT DOWN AND LEFTnDOWN LIGHT AND LEFT HEAVYsHEAVY AND LEFT LIGHTnHEAVY DOWN ",
    "AND LEFTnLIGHT UP AND RIGHTnUP LIGHT AND RIGHT HEAVYqHEAVY AND RIGHT LIGHTnHEAVY UP AND RIGH",
    "TnLIGHT UP AND LEFTnUP LIGHT AND LEFT HEAVYqHEAVY AND LEFT LIGHTnHEAVY UP AND LEFTnLIGHT VER",
    "TICAL AND RIGHTnVERTICAL LIGHT AND RIGHT HEAVYnUP HEAVY AND RIGHT DOWN LIGHTnDOWN HEAVY AND ",
    "RIGHT UP LIGHTnVERTICAL HEAVY AND RIGHT LIGHTnDOWN LIGHT AND RIGHT UP HEAVYnUP LIGHT AND RIG",
    "HT DOWN HEAVYnHEAVY VERTICAL AND RIGHTnLIGHT VERTICAL AND LEFTnVERTICAL LIGHT AND LEFT HEAVY",
    "nUP HEAVY AND LEFT DOWN LIGHTnDOWN HEAVY AND LEFT UP LIGHTnVERTICAL HEAVY AND LEFT LIGHTnDOW",
    "N LIGHT AND LEFT UP HEAVYnUP LIGHT AND LEFT DOWN HEAVYnHEAVY VERTICAL AND LEFTnLIGHT DOWN AN",
    "D HORIZONTALoEFT HEAVY AND RIGHT DOWN LIGHTnRIGHT HEAVY AND LEFT DOWN LIGHTnDOWN LIGHT AND H",
    "ORIZONTAL HEAVYsHEAVY AND HORIZONTAL LIGHTnRIGHT LIGHT AND LEFT DOWN HEAVYnLEFT LIGHT AND RI",
    "GHT DOWN HEAVYnHEAVY DOWN AND HORIZONTALnLIGHT UP AND HORIZONTALoEFT HEAVY AND RIGHT UP LIGH",
    "TnRIGHT HEAVY AND LEFT UP LIGHTnUP LIGHT AND HORIZONTAL HEAVYqHEAVY AND HORIZONTAL LIGHTnRIG",
    "HT LIGHT AND LEFT UP HEAVYnLEFT LIGHT AND RIGHT UP HEAVYnHEAVY UP AND HORIZONTALnLIGHT VERTI",
    "CAL AND HORIZONTALoEFT HEAVY AND RIGHT VERTICAL LIGHTnRIGHT HEAVY AND LEFT VERTICAL LIGHTnVE",
    "RTICAL LIGHT AND HORIZONTAL HEAVYnUP HEAVY AND DOWN HORIZONTAL LIGHTnDOWN HEAVY AND UP HORIZ",
    "ONTAL LIGHTnVERTICAL HEAVY AND HORIZONTAL LIGHTnLEFT UP HEAVY AND RIGHT DOWN LIGHTnRIGHT UP ",
    "HEAVY AND LEFT DOWN LIGHTnLEFT DOWN HEAVY AND RIGHT UP LIGHTnRIGHT DOWN HEAVY AND LEFT UP LI",
    "GHTnDOWN LIGHT AND UP HORIZONTAL HEAVYnUP LIGHT AND DOWN HORIZONTAL HEAVYnRIGHT LIGHT AND LE",
    "FT VERTICAL HEAVYnLEFT LIGHT AND RIGHT VERTICAL HEAVYnHEAVY VERTICAL AND HORIZONTALnLIGHT DO",
    "UBLE DASH HORIZONTALnHEAVY DOUBLE DASH HORIZONTALnLIGHT DOUBLE DASH VERTICALnHEAVY DOUBLE DA",
    "SH VERTICALnDOUBLE HORIZONTALuVERTICALpWN SINGLE AND RIGHT DOUBLEsDOUBLE AND RIGHT SINGLEpUB",
    "LE DOWN AND RIGHTpWN SINGLE AND LEFT DOUBLEsDOUBLE AND LEFT SINGLEpUBLE DOWN AND LEFTnUP SIN",
    "GLE AND RIGHT DOUBLEqDOUBLE AND RIGHT SINGLEnDOUBLE UP AND RIGHTnUP SINGLE AND LEFT DOUBLEqD",
    "OUBLE AND LEFT SINGLEnDOUBLE UP AND LEFTnVERTICAL SINGLE AND RIGHT DOUBLEwDOUBLE AND RIGHT S",
    "INGLEnDOUBLE VERTICAL AND RIGHTnVERTICAL SINGLE AND LEFT DOUBLEwDOUBLE AND LEFT SINGLEnDOUBL",
    "E VERTICAL AND LEFTpWN SINGLE AND HORIZONTAL DOUBLEsDOUBLE AND HORIZONTAL SINGLEpUBLE DOWN A",
    "ND HORIZONTALnUP SINGLE AND HORIZONTAL DOUBLEqDOUBLE AND HORIZONTAL SINGLEnDOUBLE UP AND HOR",
    "IZONTALnVERTICAL SINGLE AND HORIZONTAL DOUBLEwDOUBLE AND HORIZONTAL SINGLEnDOUBLE VERTICAL A",
    "ND HORIZONTALnLIGHT ARC DOWN AND RIGHTzhLEFTxUP AND LEFTzfRIGHTtDIAGONAL UPPER RIGHT TO LOWE",
    "R LEFTzjLEFT TO LOWER RIGHTzdCROSStLEFTtUPtRIGHTtDOWNnHEAVY LEFTtUPtRIGHTtDOWNnLIGHT LEFT AN",
    "D HEAVY RIGHTtUP AND HEAVY DOWNnHEAVY LEFT AND LIGHT RIGHTtUP AND LIGHT DOWNaUPPER HALF BLOC",
    "KaLOWER ONE EIGHTH BLOCKkQUARTER BLOCKgTHREE EIGHTHS BLOCKgHALF BLOCKgFIVE EIGHTHS BLOCKgTHR",
    "EE QUARTERS BLOCKgSEVEN EIGHTHS BLOCKaFULL BLOCKaLEFT SEVEN EIGHTHS BLOCKfTHREE QUARTERS BLO",
    "CKfFIVE EIGHTHS BLOCKfHALF BLOCKfTHREE EIGHTHS BLOCKfONE QUARTER BLOCKjEIGHTH BLOCKaRIGHT HA",
    "LF BLOCKaLIGHT SHADEaMEDIUM SHADEaDARK SHADEaUPPER ONE EIGHTH BLOCKaRIGHT ONE EIGHTH BLOCKaQ",
    "UADRANT LOWER LEFTpRIGHTjUPPER LEFTt AND LOWER LEFT AND LOWER RIGHTzfRIGHTyUPPER RIGHT AND L",
    "OWER LEFTzvRIGHTpRIGHTu AND LOWER LEFTzk AND LOWER RIGHTaBLACK SQUAREaWHITE SQUAREm WITH ROU",
    "NDED CORNERSnCONTAINING BLACK SMALL SQUAREaSQUARE WITH HORIZONTAL FILLmVERTICAL FILLmORTHOGO",
    "NAL CROSSHATCH FILLmUPPER LEFT TO LOWER RIGHT FILLsRIGHT TO LOWER LEFT FILLmDIAGONAL CROSSHA",
    "TCH FILLaBLACK SMALL SQUAREaWHITE SMALL SQUAREaBLACK RECTANGLEaWHITE RECTANGLEaBLACK VERTICA",
    "L RECTANGLEaWHITE VERTICAL RECTANGLEaBLACK PARALLELOGRAMaWHITE PARALLELOGRAMaBLACK UP-POINTI",
    "NG TRIANGLEaWHITE UP-POINTING TRIANGLEaBLACK UP-POINTING SMALL TRIANGLEaWHITE UP-POINTING SM",
    "ALL TRIANGLEaBLACK RIGHT-POINTING TRIANGLEaWHITE RIGHT-POINTING TRIANGLEaBLACK RIGHT-POINTIN",
    "G SMALL TRIANGLEaWHITE RIGHT-POINTING SMALL TRIANGLEaBLACK RIGHT-POINTING POINTERaWHITE RIGH",
    "T-POINTING POINTERaBLACK DOWN-POINTING TRIANGLEaWHITE DOWN-POINTING TRIANGLEaBLACK DOWN-POIN",
    "TING SMALL TRIANGLEaWHITE DOWN-POINTING SMALL TRIANGLEaBLACK LEFT-POINTING TRIANGLEaWHITE LE",
    "FT-POINTING TRIANGLEaBLACK LEFT-POINTING SMALL TRIANGLEaWHITE LEFT-POINTING SMALL TRIANGLEaB",
    "LACK LEFT-POINTING POINTERaWHITE LEFT-POINTING POINTERaBLACK DIAMONDaWHITE DIAMONDn CONTAINI",
    "NG BLACK SMALL DIAMONDaFISHEYEaLOZENGEaWHITE CIRCLEaDOTTED CIRCLEaCIRCLE WITH VERTICAL FILLa",
    "BULLSEYEbLACK CIRCLEaCIRCLE WITH LEFT HALF BLACKmRIGHT HALF BLACKmLOWER HALF BLACKmUPPER HAL",
    "F BLACKsRIGHT QUADRANT BLACKmALL BUT UPPER LEFT QUADRANT BLACKaLEFT HALF BLACK CIRCLEaRIGHT ",
    "HALF BLACK CIRCLEaINVERSE BULLETiWHITE CIRCLEaUPPER HALF INVERSE WHITE CIRCLEaLOWER HALF INV",
    "ERSE WHITE CIRCLEaUPPER LEFT QUADRANT CIRCULAR ARCgRIGHT QUADRANT CIRCULAR ARCaLOWER RIGHT Q",
    "UADRANT CIRCULAR ARCgLEFT QUADRANT CIRCULAR ARCaUPPER HALF CIRCLEaLOWER HALF CIRCLEaBLACK LO",
    "WER RIGHT TRIANGLEmLEFT TRIANGLEgUPPER LEFT TRIANGLEmRIGHT TRIANGLEaWHITE BULLETaSQUARE WITH",
    " LEFT HALF BLACKmRIGHT HALF BLACKmUPPER LEFT DIAGONAL HALF BLACKmLOWER RIGHT DIAGONAL HALF B",
    "LACKaWHITE SQUARE WITH VERTICAL BISECTING LINEgUP-POINTING TRIANGLE WITH DOTaUP-POINTING TRI",
    "ANGLE WITH LEFT HALF BLACKzbRIGHT HALF BLACKaLARGE CIRCLEaWHITE SQUARE WITH UPPER LEFT QUADR",
    "ANTsLOWER LEFT QUADRANTyRIGHT QUADRANTsUPPER RIGHT QUADRANTgCIRCLE WITH UPPER LEFT QUADRANTs",
    "LOWER LEFT QUADRANTyRIGHT QUADRANTsUPPER RIGHT QUADRANTaUPPER LEFT TRIANGLEgRIGHT TRIANGLEaL",
    "OWER LEFT TRIANGLEaWHITE MEDIUM SQUAREaBLACK MEDIUM SQUAREaWHITE MEDIUM SMALL SQUAREaBLACK M",
    "EDIUM SMALL SQUAREaLOWER RIGHT TRIANGLEaBLACK SUN WITH RAYSaCLOUDaUMBRELLAaSNOWMANaCOMETaBLA",
    "CK STARaWHITE STARaLIGHTNINGaTHUNDERSTORMaSUNaASCENDING NODEaDESCENDING NODEaCONJUNCTIONaOPP",
    "OSITIONaBLACK TELEPHONEaWHITE TELEPHONEaBALLOT BOXk WITH CHECKqXaSALTIREaUMBRELLA WITH RAIN ",
    "DROPSaHOT BEVERAGEaWHITE SHOGI PIECEaBLACK SHOGI PIECEaSHAMROCKaREVERSED ROTATED FLORAL HEAR",
    "T BULLETaBLACK LEFT POINTING INDEXgRIGHT POINTING INDEXaWHITE LEFT POINTING INDEXgUP POINTIN",
    "G INDEXgRIGHT POINTING INDEXgDOWN POINTING INDEXaSKULL AND CROSSBONESaCAUTION SIGNaRADIOACTI",
    "VE SIGNaBIOHAZARD SIGNaCADUCEUSaANKHaORTHODOX CROSSaCHI RHObROSS OF LORRAINEjJERUSALEMaSTAR ",
    "AND CRESCENTaFARSI SYMBOLaADI SHAKTIaHAMMER AND SICKLEaPEACE SYMBOLaYIN YANGaTRIGRAM FOR HEA",
    "VENmLAKEmFIREmTHUNDERmWINDnATERmMOUNTAINmEARTHaWHEEL OF DHARMAcITE FROWNING FACEgSMILING FAC",
    "EaBLACK SMILING FACEaWHITE SUN WITH RAYSaFIRST QUARTER MOONaLAST QUARTER MOONaMERCURYaFEMALE",
    " SIGNaEARTHaMALE SIGNaJUPITERaSATURNaURANUSaNEPTUNEaPLUTOaARIESaTAURUSaGEMINIaCANCERaLEOaVIR",
    "GOaLIBRAaSCORPIUSbAGITTARIUSaCAPRICORNaAQUARIUSaPISCESaWHITE CHESS KINGmQUEENmROOKmBISHOPmKN",
    "IGHTmPAWNaBLACK CHESS KINGmQUEENmROOKmBISHOPmKNIGHTmPAWNgSPADE SUITaWHITE HEART SUITgDIAMOND",
    " SUITaBLACK CLUB SUITaWHITE SPADE SUITaBLACK HEART SUITgDIAMOND SUITaWHITE CLUB SUITaHOT SPR",
    "INGSaQUARTER NOTEaEIGHTH NOTEaBEAMED EIGHTH NOTEShSIXTEENTH NOTESaMUSIC FLAT SIGNgNATURAL SI",
    "GNgSHARP SIGNaWEST SYRIAC CROSSaEAST SYRIAC CROSSaUNIVERSAL RECYCLING SYMBOLaRECYCLING SYMBO",
    "L FOR TYPE-1 PLASTICSzb2 PLASTICSzb3 PLASTICSzb4 PLASTICSzb5 PLASTICSzb6 PLASTICSzb7 PLASTIC",
    "SvGENERIC MATERIALSaBLACK UNIVERSAL RECYCLING SYMBOLaRECYCLED PAPER SYMBOLaPARTIALLY-RECYCLE",
    "D PAPER SYMBOLbERMANENT PAPER SIGNaWHEELCHAIR SYMBOLaDIE FACE-1j2j3j4j5j6aWHITE CIRCLE WITH ",
    "DOT RIGHTsTWO DOTSaBLACK CIRCLE WITH WHITE DOT RIGHTsTWO WHITE DOTSaMONOGRAM FOR YANGoINaDIG",
    "RAM FOR GREATER YANGlLESSER YINtANGlGREATER YINaWHITE FLAGaBLACK FLAGaHAMMER AND PICKaANCHOR",
    "aCROSSED SWORDSaSTAFF OF AESCULAPIUSbCALESaALEMBICaFLOWERaGEARaSTAFF OF HERMESaATOM SYMBOLaF",
    "LEUR-DE-LISaOUTLINED WHITE STARaTHREE LINES CONVERGING RIGHTxLEFTaWARNING SIGNaHIGH VOLTAGE ",
    "SIGNaDOUBLED FEMALE SIGNiMALE SIGNaINTERLOCKED FEMALE AND MALE SIGNaMALE AND FEMALE SIGNfWIT",
    "H STROKE SIGNrAND MALE AND FEMALE SIGNaVERTICAL MALE WITH STROKE SIGNaHORIZONTAL MALE WITH S",
    "TROKE SIGNaMEDIUM WHITE CIRCLEhBLACK CIRCLEhSMALL WHITE CIRCLEbARRIAGE SYMBOLaDIVORCE SYMBOL",
    "aUNMARRIED PARTNERSHIP SYMBOLaCOFFINaFUNERAL URNaNEUTERaCERESaPALLASaJUNOaVESTAaCHIRONaBLACK",
    " MOON LILITHaSEXTILEcMISEXTILEaQUINCUNXaSESQUIQUADRATEbOCCER BALLaBASEBALLaSQUARED KEYaWHITE",
    " DRAUGHTS MANpKINGaBLACK DRAUGHTS MANpKINGaSNOWMAN WITHOUT SNOWbUN BEHIND CLOUDaRAINaBLACK S",
    "NOWMANaTHUNDER CLOUD AND RAINbURNED WHITE SHOGI PIECEhBLACK SHOGI PIECEaWHITE DIAMOND IN SQU",
    "AREaCROSSING LANESaDISABLED CARaOPHIUCHUSaPICKaCAR SLIDINGaHELMET WITH WHITE CROSSaCIRCLED C",
    "ROSSING LANESbHAINSaNO ENTRYaALTERNATE ONE-WAY LEFT WAY TRAFFICaBLACK TWO-WAY LEFT WAY TRAFF",
    "ICaWHITE TWO-WAY LEFT WAY TRAFFICaBLACK LEFT LANE MERGEaWHITE LEFT LANE MERGEaDRIVE SLOW SIG",
    "NaHEAVY WHITE DOWN-POINTING TRIANGLEaLEFT CLOSED ENTRYaSQUARED SALTIREaFALLING DIAGONAL IN W",
    "HITE CIRCLE IN BLACK SQUAREaBLACK TRUCKaRESTRICTED LEFT ENTRY-1w2aASTRONOMICAL SYMBOL FOR UR",
    "ANUSaHEAVY CIRCLE WITH STROKE AND TWO DOTS ABOVEaPENTAGRAMaRIGHT-HANDED INTERLACED PENTAGRAM",
    "aLEFT-HANDED INTERLACED PENTAGRAMaINVERTED PENTAGRAMaBLACK CROSS ON SHIELDaSHINTO SHRINEaCHU",
    "RCHbASTLEaHISTORIC SITEaGEAR WITHOUT HUBj HANDLESaMAP SYMBOL FOR LIGHTHOUSEbOUNTAINaUMBRELLA",
    " ON GROUNDaFOUNTAINbLAG IN HOLEbERRYaSAILBOATbQUARE FOUR CORNERSbKIERaICE SKATEaPERSON WITH ",
    "BALLaTENTaJAPANESE BANK SYMBOLaHEADSTONE GRAVEYARD SYMBOLaFUEL PUMPaCUP ON BLACK SQUAREaWHIT",
    "E FLAG WITH HORIZONTAL MIDDLE BLACK STRIPEaBLACK SAFETY SCISSORSaUPPER BLADE SCISSORSaBLACK ",
    "SCISSORSaLOWER BLADE SCISSORSaWHITE SCISSORSgHEAVY CHECK MARKaTELEPHONE LOCATION SIGNbAPE DR",
    "IVEaAIRPLANEaENVELOPEaRAISED FISThHANDaVICTORY HANDaWRITING HANDaLOWER RIGHT PENCILaPENCILaU",
    "PPER RIGHT PENCILaWHITE NIBaBLACK NIBaCHECK MARKaHEAVY CHECK MARKaMULTIPLICATION XaHEAVY MUL",
    "TIPLICATION XaBALLOT XaHEAVY BALLOT XaOUTLINED GREEK CROSSaHEAVY GREEK CROSSaOPEN CENTRE CRO",
    "SSaHEAVY OPEN CENTRE CROSSaLATIN CROSSaSHADOWED WHITE LATIN CROSSaOUTLINED LATIN CROSSaMALTE",
    "SE CROSSaSTAR OF DAVIDaFOUR TEARDROP-SPOKED ASTERISKfBALLOON-SPOKED ASTERISKaHEAVY FOUR BALL",
    "OON-SPOKED ASTERISKaFOUR CLUB-SPOKED ASTERISKaBLACK FOUR POINTED STARaWHITE FOUR POINTED STA",
    "RaSPARKLESbTRESS OUTLINED WHITE STARaCIRCLED WHITE STARaOPEN CENTRE BLACK STARaBLACK CENTRE ",
    "WHITE STARaOUTLINED BLACK STARaHEAVY OUTLINED BLACK STARaPINWHEEL STARaSHADOWED WHITE STARaH",
    "EAVY ASTERISKaOPEN CENTRE ASTERISKaEIGHT SPOKED ASTERISKgPOINTED BLACK STARoPINWHEEL STARaSI",
    "X POINTED BLACK STARaEIGHT POINTED RECTILINEAR BLACK STARaHEAVY EIGHT POINTED RECTILINEAR BL",
    "ACK STARaTWELVE POINTED BLACK STARaSIXTEEN POINTED ASTERISKaTEARDROP-SPOKED ASTERISKaOPEN CE",
    "NTRE TEARDROP-SPOKED ASTERISKaHEAVY TEARDROP-SPOKED ASTERISKaSIX PETALLED BLACK AND WHITE FL",
    "ORETTEaBLACK FLORETTEaWHITE FLORETTEaEIGHT PETALLED OUTLINED BLACK FLORETTEaCIRCLED OPEN CEN",
    "TRE EIGHT POINTED STARaHEAVY TEARDROP-SPOKED PINWHEEL ASTERISKaSNOWFLAKEaTIGHT TRIFOLIATE SN",
    "OWFLAKEaHEAVY CHEVRON SNOWFLAKEaSPARKLEaHEAVY SPARKLEaBALLOON-SPOKED ASTERISKaEIGHT TEARDROP",
    "-SPOKED PROPELLER ASTERISKaHEAVY EIGHT TEARDROP-SPOKED PROPELLER ASTERISKaCROSS MARKaSHADOWE",
    "D WHITE CIRCLEaNEGATIVE SQUARED CROSS MARKaLOWER RIGHT DROP-SHADOWED WHITE SQUAREaUPPER RIGH",
    "T DROP-SHADOWED WHITE SQUAREaLOWER RIGHT SHADOWED WHITE SQUAREaUPPER RIGHT SHADOWED WHITE SQ",
    "UAREaBLACK QUESTION MARK ORNAMENTaWHITE QUESTION MARK ORNAMENTgEXCLAMATION MARK ORNAMENTaBLA",
    "CK DIAMOND MINUS WHITE XaHEAVY EXCLAMATION MARK SYMBOLaLIGHT VERTICAL BARaMEDIUM VERTICAL BA",
    "RaHEAVY VERTICAL BARgSINGLE TURNED COMMA QUOTATION MARK ORNAMENTnCOMMA QUOTATION MARK ORNAME",
    "NTgDOUBLE TURNED COMMA QUOTATION MARK ORNAMENTnCOMMA QUOTATION MARK ORNAMENTgLOW SINGLE COMM",
    "A QUOTATION MARK ORNAMENTkDOUBLE COMMA QUOTATION MARK ORNAMENTaCURVED STEM PARAGRAPH SIGN OR",
    "NAMENTaHEAVY EXCLAMATION MARK ORNAMENTgHEART EXCLAMATION MARK ORNAMENTgBLACK HEARTaROTATED H",
    "EAVY BLACK HEART BULLETaFLORAL HEARTaROTATED FLORAL HEART BULLETaMEDIUM LEFT PARENTHESIS ORN",
    "AMENThRIGHT PARENTHESIS ORNAMENThFLATTENED LEFT PARENTHESIS ORNAMENTrRIGHT PARENTHESIS ORNAM",
    "ENThLEFT-POINTING ANGLE BRACKET ORNAMENThRIGHT-POINTING ANGLE BRACKET ORNAMENTaHEAVY LEFT-PO",
    "INTING ANGLE QUOTATION MARK ORNAMENTgRIGHT-POINTING ANGLE QUOTATION MARK ORNAMENTgLEFT-POINT",
    "ING ANGLE BRACKET ORNAMENTgRIGHT-POINTING ANGLE BRACKET ORNAMENTaLIGHT LEFT TORTOISE SHELL B",
    "RACKET ORNAMENTgRIGHT TORTOISE SHELL BRACKET ORNAMENTaMEDIUM LEFT CURLY BRACKET ORNAMENThRIG",
    "HT CURLY BRACKET ORNAMENTaDINGBAT NEGATIVE CIRCLED DIGIT ONEzgTWOzhHREEzgFOURzhIVEzgSIXzhEVE",
    "NzgEIGHTzgNINEzaNUMBER TENiCIRCLED SANS-SERIF DIGIT ONEziTWOzjHREEziFOURzjIVEziSIXzjEVENziEI",
    "GHTziNINEzcNUMBER TENiNEGATIVE CIRCLED SANS-SERIF DIGIT ONEzrTWOzsHREEzrFOURzsIVEzrSIXzsEVEN",
    "zrEIGHTzrNINEzlNUMBER TENaHEAVY WIDE-HEADED RIGHTWARDS ARROWgPLUS SIGNgMINUS SIGNgDIVISION S",
    "IGNgSOUTH EAST ARROWgRIGHTWARDS ARROWgNORTH EAST ARROWaDRAFTING POINT RIGHTWARDS ARROWaHEAVY",
    " ROUND-TIPPED RIGHTWARDS ARROWaTRIANGLE-HEADED RIGHTWARDS ARROWaHEAVY TRIANGLE-HEADED RIGHTW",
    "ARDS ARROWaDASHED TRIANGLE-HEADED RIGHTWARDS ARROWaHEAVY DASHED TRIANGLE-HEADED RIGHTWARDS A",
    "RROWaBLACK RIGHTWARDS ARROWaTHREE-D TOP-LIGHTED RIGHTWARDS ARROWHEADiBOTTOM-LIGHTED RIGHTWAR",
    "DS ARROWHEADaBLACK RIGHTWARDS ARROWHEADaHEAVY BLACK CURVED DOWNWARDS AND RIGHTWARDS ARROWtUP",
    "WARDS AND RIGHTWARDS ARROWaSQUAT BLACK RIGHTWARDS ARROWaHEAVY CONCAVE-POINTED BLACK RIGHTWAR",
    "DS ARROWaRIGHT-SHADED WHITE RIGHTWARDS ARROWaLEFT-SHADED WHITE RIGHTWARDS ARROWaBACK-TILTED ",
    "SHADOWED WHITE RIGHTWARDS ARROWaFRONT-TILTED SHADOWED WHITE RIGHTWARDS ARROWaHEAVY LOWER RIG",
    "HT-SHADOWED WHITE RIGHTWARDS ARROWgUPPER RIGHT-SHADOWED WHITE RIGHTWARDS ARROWaNOTCHED LOWER",
    " RIGHT-SHADOWED WHITE RIGHTWARDS ARROWaCURLY LOOPaNOTCHED UPPER RIGHT-SHADOWED WHITE RIGHTWA",
    "RDS ARROWaCIRCLED HEAVY WHITE RIGHTWARDS ARROWaWHITE-FEATHERED RIGHTWARDS ARROWaBLACK-FEATHE",
    "RED SOUTH EAST ARROWqRIGHTWARDS ARROWqNORTH EAST ARROWaHEAVY BLACK-FEATHERED SOUTH EAST ARRO",
    "WwRIGHTWARDS ARROWwNORTH EAST ARROWaTEARDROP-BARBED RIGHTWARDS ARROWaHEAVY TEARDROP-SHANKED ",
    "RIGHTWARDS ARROWaWEDGE-TAILED RIGHTWARDS ARROWaHEAVY WEDGE-TAILED RIGHTWARDS ARROWaOPEN-OUTL",
    "INED RIGHTWARDS ARROWaDOUBLE CURLY LOOPaTHREE DIMENSIONAL ANGLEaWHITE TRIANGLE CONTAINING SM",
    "ALL WHITE TRIANGLEaPERPENDICULARaOPEN SUBSEThPERSETaLEFT S-SHAPED BAG DELIMITERaRIGHT S-SHAP",
    "ED BAG DELIMITERaOR WITH DOT INSIDEaREVERSE SOLIDUS PRECEDING SUBSETaSUPERSET PRECEDING SOLI",
    "DUSaVERTICAL BAR WITH HORIZONTAL STROKEaMATHEMATICAL RISING DIAGONALaLONG DIVISIONaMATHEMATI",
    "CAL FALLING DIAGONALaSQUARED LOGICAL ANDqORaWHITE DIAMOND WITH CENTRED DOTaAND WITH DOTaELEM",
    "ENT OF OPENING UPWARDSaLOWER RIGHT CORNER WITH DOTaUPPER LEFT CORNER WITH DOTaLEFT OUTER JOI",
    "NaRIGHT OUTER JOINaFULL OUTER JOINaLARGE UP TACKgDOWN TACKbEFT AND RIGHT DOUBLE TURNSTILEpTA",
    "CKfMULTIMAPbONG RIGHT TACKfLEFT TACKaUP TACK WITH CIRCLE ABOVEaLOZENGE DIVIDED BY HORIZONTAL",
    " RULEaWHITE CONCAVE-SIDED DIAMONDzc WITH LEFTWARDS TICKziRIGHTWARDS TICKgSQUARE WITH LEFTWAR",
    "DS TICKsRIGHTWARDS TICKaMATHEMATICAL LEFT WHITE SQUARE BRACKETnRIGHT WHITE SQUARE BRACKETnLE",
    "FT ANGLE BRACKETnRIGHT ANGLE BRACKETnLEFT DOUBLE ANGLE BRACKETnRIGHT DOUBLE ANGLE BRACKETnLE",
    "FT WHITE TORTOISE SHELL BRACKETnRIGHT WHITE TORTOISE SHELL BRACKETnLEFT FLATTENED PARENTHESI",
    "SnRIGHT FLATTENED PARENTHESISaUPWARDS QUADRUPLE ARROWaDOWNWARDS QUADRUPLE ARROWaANTICLOCKWIS",
    "E GAPPED CIRCLE ARROWaCLOCKWISE GAPPED CIRCLE ARROWaRIGHT ARROW WITH CIRCLED PLUSaLONG LEFTW",
    "ARDS ARROWfRIGHTWARDS ARROWfLEFT RIGHT ARROWjWARDS DOUBLE ARROWfRIGHTWARDS DOUBLE ARROWfLEFT",
    " RIGHT DOUBLE ARROWjWARDS ARROW FROM BARfRIGHTWARDS ARROW FROM BARfLEFTWARDS DOUBLE ARROW FR",
    "OM BARfRIGHTWARDS DOUBLE ARROW FROM BARqSQUIGGLE ARROWaBRAILLE PATTERN BLANKqDOTS-1v2v12v3v1",
    "3v23v123v4v14v24v124v34v134v234v1234v5v15v25v125v35v135v235v1235v45v145v245v1245v345v1345v23",
    "45v12345v6v16v26v126v36v136v236v1236v46v146v246v1246v346v1346v2346v12346v56v156v256v1256v356",
    "v1356v2356v12356v456v1456v2456v12456v3456v13456v23456v123456v7v17v27v127v37v137v237v1237v47v",
    "147v247v1247v347v1347v2347v12347v57v157v257v1257v357v1357v2357v12357v457v1457v2457v12457v345",
    "7v13457v23457v123457v67v167v267v1267v367v1367v2367v12367v467v1467v2467v12467v3467v13467v2346",
    "7v123467v567v1567v2567v12567v3567v13567v23567v123567v4567v14567v24567v124567v34567v134567v23",
    "4567v1234567v8v18v28v128v38v138v238v1238v48v148v248v1248v348v1348v2348v12348v58v158v258v1258",
    "v358v1358v2358v12358v458v1458v2458v12458v3458v13458v23458v123458v68v168v268v1268v368v1368v23",
    "68v12368v468v1468v2468v12468v3468v13468v23468v123468v568v1568v2568v12568v3568v13568v23568v12",
    "3568v4568v14568v24568v124568v34568v134568v234568v1234568v78v178v278v1278v378v1378v2378v12378",
    "v478v1478v2478v12478v3478v13478v23478v123478v578v1578v2578v12578v3578v13578v23578v123578v457",
    "8v14578v24578v124578v34578v134578v234578v1234578v678v1678v2678v12678v3678v13678v23678v123678",
    "v4678v14678v24678v124678v34678v134678v234678v1234678v5678v15678v25678v125678v35678v135678v23",
    "5678v1235678v45678v145678v245678v1245678v345678v1345678v2345678v12345678aRIGHTWARDS TWO-HEAD",
    "ED ARROW WITH VERTICAL STROKEziDOUBLE VERTICAL STROKEaLEFTWARDS DOUBLE ARROW WITH VERTICAL S",
    "TROKEaRIGHTWARDS DOUBLE ARROW WITH VERTICAL STROKEaLEFT RIGHT DOUBLE ARROW WITH VERTICAL STR",
    "OKEaRIGHTWARDS TWO-HEADED ARROW FROM BARaLEFTWARDS DOUBLE ARROW FROM BARaRIGHTWARDS DOUBLE A",
    "RROW FROM BARaDOWNWARDS ARROW WITH HORIZONTAL STROKEaUPWARDS ARROW WITH HORIZONTAL STROKEiTR",
    "IPLE ARROWaDOWNWARDS TRIPLE ARROWaLEFTWARDS DOUBLE DASH ARROWaRIGHTWARDS DOUBLE DASH ARROWaL",
    "EFTWARDS TRIPLE DASH ARROWaRIGHTWARDS TRIPLE DASH ARROWmWO-HEADED TRIPLE DASH ARROWlARROW WI",
    "TH DOTTED STEMaUPWARDS ARROW TO BARaDOWNWARDS ARROW TO BARaRIGHTWARDS ARROW WITH TAIL WITH V",
    "ERTICAL STROKEzhDOUBLE VERTICAL STROKElTWO-HEADED ARROW WITH TAILzm WITH VERTICAL STROKEzsDO",
    "UBLE VERTICAL STROKEaLEFTWARDS ARROW-TAILaRIGHTWARDS ARROW-TAILaLEFTWARDS DOUBLE ARROW-TAILa",
    "RIGHTWARDS DOUBLE ARROW-TAILaLEFTWARDS ARROW TO BLACK DIAMONDaRIGHTWARDS ARROW TO BLACK DIAM",
    "ONDaLEFTWARDS ARROW FROM BAR TO BLACK DIAMONDaRIGHTWARDS ARROW FROM BAR TO BLACK DIAMONDaNOR",
    "TH WEST AND SOUTH EAST ARROWgEAST AND SOUTH WEST ARROWgWEST ARROW WITH HOOKgEAST ARROW WITH ",
    "HOOKaSOUTH EAST ARROW WITH HOOKgWEST ARROW WITH HOOKaNORTH WEST ARROW AND NORTH EAST ARROWgE",
    "AST ARROW AND SOUTH EAST ARROWaSOUTH EAST ARROW AND SOUTH WEST ARROWgWEST ARROW AND NORTH WE",
    "ST ARROWaRISING DIAGONAL CROSSING FALLING DIAGONALaFALLING DIAGONAL CROSSING RISING DIAGONAL",
    "aSOUTH EAST ARROW CROSSING NORTH EAST ARROWaNORTH EAST ARROW CROSSING SOUTH EAST ARROWaFALLI",
    "NG DIAGONAL CROSSING NORTH EAST ARROWaRISING DIAGONAL CROSSING SOUTH EAST ARROWaNORTH EAST A",
    "RROW CROSSING NORTH WEST ARROWgWEST ARROW CROSSING NORTH EAST ARROWaWAVE ARROW POINTING DIRE",
    "CTLY RIGHTaARROW POINTING RIGHTWARDS THEN CURVING UPWARDSzoDOWNWARDSpDOWNWARDS THEN CURVING ",
    "LEFTWARDSznRIGHTWARDSaRIGHT-SIDE ARC CLOCKWISE ARROWaLEFT-SIDE ARC ANTICLOCKWISE ARROWaTOP A",
    "RC ANTICLOCKWISE ARROWaBOTTOM ARC ANTICLOCKWISE ARROWaTOP ARC CLOCKWISE ARROW WITH MINUSiANT",
    "ICLOCKWISE ARROW WITH PLUSaLOWER RIGHT SEMICIRCULAR CLOCKWISE ARROWgLEFT SEMICIRCULAR ANTICL",
    "OCKWISE ARROWaANTICLOCKWISE CLOSED CIRCLE ARROWaCLOCKWISE CLOSED CIRCLE ARROWaRIGHTWARDS ARR",
    "OW ABOVE SHORT LEFTWARDS ARROWaLEFTWARDS ARROW ABOVE SHORT RIGHTWARDS ARROWaSHORT RIGHTWARDS",
    " ARROW ABOVE LEFTWARDS ARROWaRIGHTWARDS ARROW WITH PLUS BELOWaLEFTWARDS ARROW WITH PLUS BELO",
    "WaRIGHTWARDS ARROW THROUGH XaLEFT RIGHT ARROW THROUGH SMALL CIRCLEaUPWARDS TWO-HEADED ARROW ",
    "FROM SMALL CIRCLEaLEFT BARB UP RIGHT BARB DOWN HARPOONkDOWN RIGHT BARB UP HARPOONaUP BARB RI",
    "GHT DOWN BARB LEFT HARPOONiLEFT DOWN BARB RIGHT HARPOONaLEFT BARB UP RIGHT BARB UP HARPOONaU",
    "P BARB RIGHT DOWN BARB RIGHT HARPOONaLEFT BARB DOWN RIGHT BARB DOWN HARPOONaUP BARB LEFT DOW",
    "N BARB LEFT HARPOONaLEFTWARDS HARPOON WITH BARB UP TO BARaRIGHTWARDS HARPOON WITH BARB UP TO",
    " BARaUPWARDS HARPOON WITH BARB RIGHT TO BARaDOWNWARDS HARPOON WITH BARB RIGHT TO BARaLEFTWAR",
    "DS HARPOON WITH BARB DOWN TO BARaRIGHTWARDS HARPOON WITH BARB DOWN TO BARaUPWARDS HARPOON WI",
    "TH BARB LEFT TO BARaDOWNWARDS HARPOON WITH BARB LEFT TO BARaLEFTWARDS HARPOON WITH BARB UP F",
    "ROM BARaRIGHTWARDS HARPOON WITH BARB UP FROM BARaUPWARDS HARPOON WITH BARB RIGHT FROM BARaDO",
    "WNWARDS HARPOON WITH BARB RIGHT FROM BARaLEFTWARDS HARPOON WITH BARB DOWN FROM BARaRIGHTWARD",
    "S HARPOON WITH BARB DOWN FROM BARaUPWARDS HARPOON WITH BARB LEFT FROM BARaDOWNWARDS HARPOON ",
    "WITH BARB LEFT FROM BARaLEFTWARDS HARPOON WITH BARB UP ABOVE LEFTWARDS HARPOON WITH BARB DOW",
    "NaUPWARDS HARPOON WITH BARB LEFT BESIDE UPWARDS HARPOON WITH BARB RIGHTaRIGHTWARDS HARPOON W",
    "ITH BARB UP ABOVE RIGHTWARDS HARPOON WITH BARB DOWNaDOWNWARDS HARPOON WITH BARB LEFT BESIDE ",
    "DOWNWARDS HARPOON WITH BARB RIGHTaLEFTWARDS HARPOON WITH BARB UP ABOVE RIGHTWARDS HARPOON WI",
    "TH BARB UPzdDOWN ABOVE RIGHTWARDS HARPOON WITH BARB DOWNaRIGHTWARDS HARPOON WITH BARB UP ABO",
    "VE LEFTWARDS HARPOON WITH BARB UPzeDOWN ABOVE LEFTWARDS HARPOON WITH BARB DOWNaLEFTWARDS HAR",
    "POON WITH BARB UP ABOVE LONG DASHzdDOWN BELOW LONG DASHaRIGHTWARDS HARPOON WITH BARB UP ABOV",
    "E LONG DASHzeDOWN BELOW LONG DASHaUPWARDS HARPOON WITH BARB LEFT BESIDE DOWNWARDS HARPOON WI",
    "TH BARB RIGHTaDOWNWARDS HARPOON WITH BARB LEFT BESIDE UPWARDS HARPOON WITH BARB RIGHTaRIGHT ",
    "DOUBLE ARROW WITH ROUNDED HEADaEQUALS SIGN ABOVE RIGHTWARDS ARROWaTILDE OPERATOR ABOVE RIGHT",
    "WARDS ARROWaLEFTWARDS ARROW ABOVE TILDE OPERATORaRIGHTWARDS ARROW ABOVE TILDE OPERATORxALMOS",
    "T EQUAL TOaLESS-THAN ABOVE LEFTWARDS ARROWcFTWARDS ARROW THROUGH LESS-THANaGREATER-THAN ABOV",
    "E RIGHTWARDS ARROWaSUBSET ABOVE RIGHTWARDS ARROWaLEFTWARDS ARROW THROUGH SUBSETaSUPERSET ABO",
    "VE LEFTWARDS ARROWaLEFT FISH TAILaRIGHT FISH TAILaUP FISH TAILaDOWN FISH TAILaTRIPLE VERTICA",
    "L BAR DELIMITERaZ NOTATION SPOTlTYPE COLONaLEFT WHITE CURLY BRACKETaRIGHT WHITE CURLY BRACKE",
    "TaLEFT WHITE PARENTHESISaRIGHT WHITE PARENTHESISaZ NOTATION LEFT IMAGE BRACKETlRIGHT IMAGE B",
    "RACKETlLEFT BINDING BRACKETlRIGHT BINDING BRACKETaLEFT SQUARE BRACKET WITH UNDERBARaRIGHT SQ",
    "UARE BRACKET WITH UNDERBARaLEFT SQUARE BRACKET WITH TICK IN TOP CORNERaRIGHT SQUARE BRACKET ",
    "WITH TICK IN BOTTOM CORNERaLEFT SQUARE BRACKET WITH TICK IN BOTTOM CORNERaRIGHT SQUARE BRACK",
    "ET WITH TICK IN TOP CORNERaLEFT ANGLE BRACKET WITH DOTaRIGHT ANGLE BRACKET WITH DOTaLEFT ARC",
    " LESS-THAN BRACKETaRIGHT ARC GREATER-THAN BRACKETaDOUBLE LEFT ARC GREATER-THAN BRACKEThRIGHT",
    " ARC LESS-THAN BRACKETaLEFT BLACK TORTOISE SHELL BRACKETaRIGHT BLACK TORTOISE SHELL BRACKETa",
    "DOTTED FENCEaVERTICAL ZIGZAG LINEaMEASURED ANGLE OPENING LEFTaRIGHT ANGLE VARIANT WITH SQUAR",
    "EaMEASURED RIGHT ANGLE WITH DOTaANGLE WITH S INSIDEbCUTE ANGLEaSPHERICAL ANGLE OPENING LEFTy",
    "UPaTURNED ANGLEaREVERSED ANGLEaANGLE WITH UNDERBARaREVERSED ANGLE WITH UNDERBARaOBLIQUE ANGL",
    "E OPENING UPwDOWNaMEASURED ANGLE WITH OPEN ARM ENDING IN ARROW POINTING UP AND RIGHTzzlLEFTz",
    "zeDOWN AND RIGHTzznLEFTzzeRIGHT AND UPzzeLEFT AND UPzzeRIGHT AND DOWNzzeLEFT AND DOWNaREVERS",
    "ED EMPTY SETaEMPTY SET WITH OVERBARpSMALL CIRCLE ABOVEpRIGHT ARROW ABOVEpLEFT ARROW ABOVEaCI",
    "RCLE WITH HORIZONTAL BARgD VERTICAL BARiPARALLELiREVERSE SOLIDUSiPERPENDICULARg DIVIDED BY H",
    "ORIZONTAL BAR AND TOP HALF DIVIDED BY VERTICAL BARhWITH SUPERIMPOSED XgD ANTICLOCKWISE-ROTAT",
    "ED DIVISION SIGNaUP ARROW THROUGH CIRCLEaCIRCLED WHITE BULLETiBULLETiLESS-THANiGREATER-THANg",
    " WITH SMALL CIRCLE TO THE RIGHTmTWO HORIZONTAL STROKES TO THE RIGHTaSQUARED RISING DIAGONAL ",
    "SLASHiFALLING DIAGONAL SLASHiASTERISKiSMALL CIRCLEjQUAREaTWO JOINED SQUARESbRIANGLE WITH DOT",
    " ABOVEoUNDERBARaS IN TRIANGLEaTRIANGLE WITH SERIFS AT BOTTOMaRIGHT TRIANGLE ABOVE LEFT TRIAN",
    "GLEaLEFT TRIANGLE BESIDE VERTICAL BARaVERTICAL BAR BESIDE RIGHT TRIANGLEaBOWTIE WITH LEFT HA",
    "LF BLACKmRIGHT HALF BLACKbLACK BOWTIEaTIMES WITH LEFT HALF BLACKlRIGHT HALF BLACKaWHITE HOUR",
    "GLASSaBLACK HOURGLASSaLEFT WIGGLY FENCEaRIGHT WIGGLY FENCEaLEFT DOUBLE WIGGLY FENCEaRIGHT DO",
    "UBLE WIGGLY FENCEaINCOMPLETE INFINITYaTIE OVER INFINITYaINFINITY NEGATED WITH VERTICAL BARaD",
    "OUBLE-ENDED MULTIMAPaSQUARE WITH CONTOURED OUTLINEaINCREASES ASaSHUFFLE PRODUCTaEQUALS SIGN ",
    "AND SLANTED PARALLELzh WITH TILDE ABOVEaIDENTICAL TO AND SLANTED PARALLELaGLEICH STARKaTHERM",
    "ODYNAMICaDOWN-POINTING TRIANGLE WITH LEFT HALF BLACKzdRIGHT HALF BLACKaBLACK DIAMOND WITH DO",
    "WN ARROWgLOZENGEaWHITE CIRCLE WITH DOWN ARROWaBLACK CIRCLE WITH DOWN ARROWaERROR-BARRED WHIT",
    "E SQUAREnBLACK SQUAREnWHITE DIAMONDnBLACK DIAMONDnWHITE CIRCLEnBLACK CIRCLEaRULE-DELAYEDbEVE",
    "RSE SOLIDUS OPERATORaSOLIDUS WITH OVERBARaREVERSE SOLIDUS WITH HORIZONTAL STROKEaBIG SOLIDUS",
    "eREVERSE SOLIDUSaDOUBLE PLUSaTRIPLE PLUSaLEFT-POINTING CURVED ANGLE BRACKETaRIGHT-POINTING C",
    "URVED ANGLE BRACKETaTINYaMINYaN-ARY CIRCLED DOT OPERATORoPLUS OPERATORoTIMES OPERATORgUNION ",
    "OPERATOR WITH DOTzbPLUSgSQUARE INTERSECTION OPERATORnUNION OPERATORaTWO LOGICAL AND OPERATOR",
    "mOR OPERATORaN-ARY TIMES OPERATORaMODULO TWO SUMaSUMMATION WITH INTEGRALaQUADRUPLE INTEGRAL ",
    "OPERATORaFINITE PART INTEGRALaINTEGRAL WITH DOUBLE STROKEjAVERAGE WITH SLASHaCIRCULATION FUN",
    "CTIONaANTICLOCKWISE INTEGRATIONaLINE INTEGRATION WITH RECTANGULAR PATH AROUND POLEwSEMICIRCU",
    "LAR PATH AROUND POLErNOT INCLUDING THE POLEaINTEGRAL AROUND A POINT OPERATORaQUATERNION INTE",
    "GRAL OPERATORaINTEGRAL WITH LEFTWARDS ARROW WITH HOOKoTIMES SIGNoINTERSECTIONoUNIONoOVERBARo",
    "UNDERBARaJOINaLARGE LEFT TRIANGLE OPERATORaZ NOTATION SCHEMA COMPOSITIONsPIPINGtROJECTIONaPL",
    "US SIGN WITH SMALL CIRCLE ABOVEpCIRCUMFLEX ACCENT ABOVEpTILDE ABOVEpDOT BELOWpTILDE BELOWpSU",
    "BSCRIPT TWOpBLACK TRIANGLEaMINUS SIGN WITH COMMA ABOVEqDOT BELOWqFALLING DOTSqRISING DOTSaPL",
    "US SIGN IN LEFT HALF CIRCLEnRIGHT HALF CIRCLEaVECTOR OR CROSS PRODUCTaMULTIPLICATION SIGN WI",
    "TH DOT ABOVEzaUNDERBARaSEMIDIRECT PRODUCT WITH BOTTOM CLOSEDbMASH PRODUCTaMULTIPLICATION SIG",
    "N IN LEFT HALF CIRCLExRIGHT HALF CIRCLEaCIRCLED MULTIPLICATION SIGN WITH CIRCUMFLEX ACCENTaM",
    "ULTIPLICATION SIGN IN DOUBLE CIRCLEaCIRCLED DIVISION SIGNaPLUS SIGN IN TRIANGLEaMINUS SIGN I",
    "N TRIANGLEbULTIPLICATION SIGN IN TRIANGLEaINTERIOR PRODUCTaRIGHTHAND INTERIOR PRODUCTaZ NOTA",
    "TION RELATIONAL COMPOSITIONaAMALGAMATION OR COPRODUCTaINTERSECTION WITH DOTaUNION WITH MINUS",
    " SIGNlOVERBARaINTERSECTION WITH OVERBARsLOGICAL ANDaUNION WITH LOGICAL ORgABOVE INTERSECTION",
    "aINTERSECTION ABOVE UNIONaUNION ABOVE BAR ABOVE INTERSECTIONaINTERSECTION ABOVE BAR ABOVE UN",
    "IONaUNION BESIDE AND JOINED WITH UNIONaINTERSECTION BESIDE AND JOINED WITH INTERSECTIONaCLOS",
    "ED UNION WITH SERIFShINTERSECTION WITH SERIFSaDOUBLE SQUARE INTERSECTIONoUNIONaCLOSED UNION ",
    "WITH SERIFS AND SMASH PRODUCTaLOGICAL AND WITH DOT ABOVEiOR WITH DOT ABOVEaDOUBLE LOGICAL AN",
    "DpORaTWO INTERSECTING LOGICAL ANDzaORaSLOPING LARGE ORoANDaLOGICAL OR OVERLAPPING LOGICAL AN",
    "DiAND WITH MIDDLE STEMiOR WITH MIDDLE STEMiAND WITH HORIZONTAL DASHiOR WITH HORIZONTAL DASHi",
    "AND WITH DOUBLE OVERBARrUNDERBARrDOUBLE UNDERBARaSMALL VEE WITH UNDERBARaLOGICAL OR WITH DOU",
    "BLE OVERBARxUNDERBARaZ NOTATION DOMAIN ANTIRESTRICTIONlRANGE ANTIRESTRICTIONaEQUALS SIGN WIT",
    "H DOT BELOWaIDENTICAL WITH DOT ABOVEaTRIPLE HORIZONTAL BAR WITH DOUBLE VERTICAL STROKEzcTRIP",
    "LE VERTICAL STROKEbILDE OPERATOR WITH DOT ABOVEuRISING DOTSaSIMILAR MINUS SIMILARaCONGRUENT ",
    "WITH DOT ABOVEaEQUALS WITH ASTERISKaALMOST EQUAL TO WITH CIRCUMFLEX ACCENTbPPROXIMATELY EQUA",
    "L OR EQUAL TOaEQUALS SIGN ABOVE PLUS SIGNaPLUS SIGN ABOVE EQUALS SIGNaEQUALS SIGN ABOVE TILD",
    "E OPERATORaDOUBLE COLON EQUALaTWO CONSECUTIVE EQUALS SIGNSbHREE CONSECUTIVE EQUALS SIGNSaEQU",
    "ALS SIGN WITH TWO DOTS ABOVE AND TWO DOTS BELOWdIVALENT WITH FOUR DOTS ABOVEaLESS-THAN WITH ",
    "CIRCLE INSIDEaGREATER-THAN WITH CIRCLE INSIDEaLESS-THAN WITH QUESTION MARK ABOVEaGREATER-THA",
    "N WITH QUESTION MARK ABOVEaLESS-THAN OR SLANTED EQUAL TOaGREATER-THAN OR SLANTED EQUAL TOaLE",
    "SS-THAN OR SLANTED EQUAL TO WITH DOT INSIDEaGREATER-THAN OR SLANTED EQUAL TO WITH DOT INSIDE",
    "aLESS-THAN OR SLANTED EQUAL TO WITH DOT ABOVEaGREATER-THAN OR SLANTED EQUAL TO WITH DOT ABOV",
    "EaLESS-THAN OR SLANTED EQUAL TO WITH DOT ABOVE RIGHTaGREATER-THAN OR SLANTED EQUAL TO WITH D",
    "OT ABOVE LEFTaLESS-THAN OR APPROXIMATEaGREATER-THAN OR APPROXIMATEaLESS-THAN AND SINGLE-LINE",
    " NOT EQUAL TOaGREATER-THAN AND SINGLE-LINE NOT EQUAL TOaLESS-THAN AND NOT APPROXIMATEaGREATE",
    "R-THAN AND NOT APPROXIMATEaLESS-THAN ABOVE DOUBLE-LINE EQUAL ABOVE GREATER-THANaGREATER-THAN",
    " ABOVE DOUBLE-LINE EQUAL ABOVE LESS-THANaLESS-THAN ABOVE SIMILAR OR EQUALaGREATER-THAN ABOVE",
    " SIMILAR OR EQUALaLESS-THAN ABOVE SIMILAR ABOVE GREATER-THANaGREATER-THAN ABOVE SIMILAR ABOV",
    "E LESS-THANaLESS-THAN ABOVE GREATER-THAN ABOVE DOUBLE-LINE EQUALaGREATER-THAN ABOVE LESS-THA",
    "N ABOVE DOUBLE-LINE EQUALaLESS-THAN ABOVE SLANTED EQUAL ABOVE GREATER-THAN ABOVE SLANTED EQU",
    "ALaGREATER-THAN ABOVE SLANTED EQUAL ABOVE LESS-THAN ABOVE SLANTED EQUALaSLANTED EQUAL TO OR ",
    "LESS-THANuGREATER-THANuLESS-THAN WITH DOT INSIDEuGREATER-THAN WITH DOT INSIDEaDOUBLE-LINE EQ",
    "UAL TO OR LESS-THANyGREATER-THANmSLANTED EQUAL TO OR LESS-THANzhGREATER-THANaSIMILAR OR LESS",
    "-THANlGREATER-THANiABOVE LESS-THAN ABOVE EQUALS SIGNoGREATER-THAN ABOVE EQUALS SIGNaDOUBLE N",
    "ESTED LESS-THANoGREATER-THANoLESS-THAN WITH UNDERBARaGREATER-THAN OVERLAPPING LESS-THANnBESI",
    "DE LESS-THANaLESS-THAN CLOSED BY CURVEaGREATER-THAN CLOSED BY CURVEaLESS-THAN CLOSED BY CURV",
    "E ABOVE SLANTED EQUALaGREATER-THAN CLOSED BY CURVE ABOVE SLANTED EQUALaSMALLER THANaLARGER T",
    "HANaSMALLER THAN OR EQUAL TOaLARGER THAN OR EQUAL TOaEQUALS SIGN WITH BUMPY ABOVEaPRECEDES A",
    "BOVE SINGLE-LINE EQUALS SIGNaSUCCEEDS ABOVE SINGLE-LINE EQUALS SIGNaPRECEDES ABOVE SINGLE-LI",
    "NE NOT EQUAL TOaSUCCEEDS ABOVE SINGLE-LINE NOT EQUAL TOaPRECEDES ABOVE EQUALS SIGNaSUCCEEDS ",
    "ABOVE EQUALS SIGNaPRECEDES ABOVE NOT EQUAL TOaSUCCEEDS ABOVE NOT EQUAL TOaPRECEDES ABOVE ALM",
    "OST EQUAL TOaSUCCEEDS ABOVE ALMOST EQUAL TOaPRECEDES ABOVE NOT ALMOST EQUAL TOaSUCCEEDS ABOV",
    "E NOT ALMOST EQUAL TOaDOUBLE PRECEDEShSUCCEEDSaSUBSET WITH DOTcPERSET WITH DOTcBSET WITH PLU",
    "S SIGN BELOWcPERSET WITH PLUS SIGN BELOWcBSET WITH MULTIPLICATION SIGN BELOWcPERSET WITH MUL",
    "TIPLICATION SIGN BELOWcBSET OF OR EQUAL TO WITH DOT ABOVEcPERSET OF OR EQUAL TO WITH DOT ABO",
    "VEcBSET OF ABOVE EQUALS SIGNcPERSET OF ABOVE EQUALS SIGNcBSET OF ABOVE TILDE OPERATORcPERSET",
    " OF ABOVE TILDE OPERATORcBSET OF ABOVE ALMOST EQUAL TOcPERSET OF ABOVE ALMOST EQUAL TOcBSET ",
    "OF ABOVE NOT EQUAL TOcPERSET OF ABOVE NOT EQUAL TObQUARE LEFT OPEN BOX OPERATORhRIGHT OPEN B",
    "OX OPERATORaCLOSED SUBSETjPERSETjBSET OR EQUAL TOjPERSET OR EQUAL TOaSUBSET ABOVE SUPERSETcP",
    "ERSET ABOVE SUBSETcBSET ABOVE SUBSETcPERSET ABOVE SUPERSETjBESIDE SUBSETqAND JOINED BY DASH ",
    "WITH SUBSETaELEMENT OF OPENING DOWNWARDSaPITCHFORK WITH TEE TOPaTRANSVERSAL INTERSECTIONaFOR",
    "KINGaNONFORKINGaSHORT LEFT TACKgDOWN TACKgUP TACKaPERPENDICULAR WITH SaVERTICAL BAR TRIPLE R",
    "IGHT TURNSTILEaDOUBLE VERTICAL BAR LEFT TURNSTILEaVERTICAL BAR DOUBLE LEFT TURNSTILEaDOUBLE ",
    "VERTICAL BAR DOUBLE LEFT TURNSTILEaLONG DASH FROM LEFT MEMBER OF DOUBLE VERTICALaSHORT DOWN ",
    "TACK WITH OVERBARgUP TACK WITH UNDERBARoABOVE SHORT DOWN TACKaDOUBLE DOWN TACKhUP TACKhSTROK",
    "E NOT SIGNaREVERSED DOUBLE STROKE NOT SIGNaDOES NOT DIVIDE WITH REVERSED NEGATION SLASHaVERT",
    "ICAL LINE WITH CIRCLE ABOVEzbBELOWaDOWN TACK WITH CIRCLE BELOWaPARALLEL WITH HORIZONTAL STRO",
    "KEoTILDE OPERATORaTRIPLE VERTICAL BAR BINARY RELATIONuWITH HORIZONTAL STROKEhCOLON OPERATORh",
    "NESTED LESS-THANoGREATER-THANaDOUBLE-LINE SLANTED LESS-THAN OR EQUAL TOuGREATER-THAN OR EQUA",
    "L TOaTRIPLE SOLIDUS BINARY RELATIONaLARGE TRIPLE VERTICAL BAR OPERATORaDOUBLE SOLIDUS OPERAT",
    "ORaWHITE VERTICAL BARaN-ARY WHITE VERTICAL BARbORTH EAST WHITE ARROWgWEST WHITE ARROWaSOUTH ",
    "EAST WHITE ARROWgWEST WHITE ARROWaLEFT RIGHT WHITE ARROWeWARDS BLACK ARROWaUPWARDS BLACK ARR",
    "OWaDOWNWARDS BLACK ARROWaNORTH EAST BLACK ARROWgWEST BLACK ARROWaSOUTH EAST BLACK ARROWgWEST",
    " BLACK ARROWaLEFT RIGHT BLACK ARROWaUP DOWN BLACK ARROWaRIGHTWARDS ARROW WITH TIP DOWNWARDSz",
    "bUPWARDSaLEFTWARDS ARROW WITH TIP DOWNWARDSzaUPWARDSaSQUARE WITH TOP HALF BLACKmBOTTOM HALF ",
    "BLACKmUPPER RIGHT DIAGONAL HALF BLACKmLOWER LEFT DIAGONAL HALF BLACKaDIAMOND WITH LEFT HALF ",
    "BLACKnRIGHT HALF BLACKnTOP HALF BLACKnBOTTOM HALF BLACKbOTTED SQUAREaBLACK LARGE SQUAREaWHIT",
    "E LARGE SQUAREaBLACK VERY SMALL SQUAREaWHITE VERY SMALL SQUAREaBLACK PENTAGONaWHITE PENTAGON",
    "gHEXAGONaBLACK HEXAGONaHORIZONTAL BLACK HEXAGONaBLACK LARGE CIRCLEgMEDIUM DIAMONDaWHITE MEDI",
    "UM DIAMONDaBLACK MEDIUM LOZENGEaWHITE MEDIUM LOZENGEaBLACK SMALL DIAMONDmLOZENGEaWHITE SMALL",
    " LOZENGEaBLACK HORIZONTAL ELLIPSEaWHITE HORIZONTAL ELLIPSEaBLACK VERTICAL ELLIPSEaWHITE VERT",
    "ICAL ELLIPSEaLEFT ARROW WITH SMALL CIRCLEaTHREE LEFTWARDS ARROWSaLEFT ARROW WITH CIRCLED PLU",
    "SbONG LEFTWARDS SQUIGGLE ARROWbEFTWARDS TWO-HEADED ARROW WITH VERTICAL STROKEzhDOUBLE VERTIC",
    "AL STROKEzcFROM BARvTRIPLE DASH ARROWkARROW WITH DOTTED STEMvTAIL WITH VERTICAL STROKEzgDOUB",
    "LE VERTICAL STROKEkTWO-HEADED ARROW WITH TAILzl WITH VERTICAL STROKEzrDOUBLE VERTICAL STROKE",
    "kARROW THROUGH XaWAVE ARROW POINTING DIRECTLY LEFTaEQUALS SIGN ABOVE LEFTWARDS ARROWaREVERSE",
    " TILDE OPERATOR ABOVE LEFTWARDS ARROWaLEFTWARDS ARROW ABOVE REVERSE ALMOST EQUAL TOaRIGHTWAR",
    "DS ARROW THROUGH GREATER-THANzaSUPERSETaLEFTWARDS QUADRUPLE ARROWaRIGHTWARDS QUADRUPLE ARROW",
    "bEVERSE TILDE OPERATOR ABOVE RIGHTWARDS ARROWbIGHTWARDS ARROW ABOVE REVERSE ALMOST EQUAL TOa",
    "TILDE OPERATOR ABOVE LEFTWARDS ARROWaLEFTWARDS ARROW ABOVE ALMOST EQUAL TOwREVERSE TILDE OPE",
    "RATORaRIGHTWARDS ARROW ABOVE REVERSE TILDE OPERATORaDOWNWARDS TRIANGLE-HEADED ZIGZAG ARROWaS",
    "HORT SLANTED NORTH ARROWgBACKSLANTED SOUTH ARROWaWHITE MEDIUM STARaBLACK SMALL STARaWHITE SM",
    "ALL STARaBLACK RIGHT-POINTING PENTAGONaWHITE RIGHT-POINTING PENTAGONaHEAVY LARGE CIRCLEgOVAL",
    " WITH OVAL INSIDEgCIRCLE WITH CIRCLE INSIDEmmD SALTIREaSLANTED NORTH ARROW WITH HOOKED HEADa",
    "BACKSLANTED SOUTH ARROW WITH HOOKED TAILaSLANTED NORTH ARROW WITH HORIZONTAL TAILaBACKSLANTE",
    "D SOUTH ARROW WITH HORIZONTAL TAILbENT ARROW POINTING DOWNWARDS THEN NORTH EASTaSHORT BENT A",
    "RROW POINTING DOWNWARDS THEN NORTH EASTaLEFTWARDS TRIANGLE-HEADED ARROWaUPWARDS TRIANGLE-HEA",
    "DED ARROWaRIGHTWARDS TRIANGLE-HEADED ARROWaDOWNWARDS TRIANGLE-HEADED ARROWaLEFT RIGHT TRIANG",
    "LE-HEADED ARROWaUP DOWN TRIANGLE-HEADED ARROWaNORTH WEST TRIANGLE-HEADED ARROWgEAST TRIANGLE",
    "-HEADED ARROWaSOUTH EAST TRIANGLE-HEADED ARROWgWEST TRIANGLE-HEADED ARROWaLEFTWARDS TRIANGLE",
    "-HEADED DASHED ARROWaUPWARDS TRIANGLE-HEADED DASHED ARROWaRIGHTWARDS TRIANGLE-HEADED DASHED ",
    "ARROWaDOWNWARDS TRIANGLE-HEADED DASHED ARROWaCLOCKWISE TRIANGLE-HEADED OPEN CIRCLE ARROWaANT",
    "ICLOCKWISE TRIANGLE-HEADED OPEN CIRCLE ARROWaLEFTWARDS TRIANGLE-HEADED ARROW TO BARaUPWARDS ",
    "TRIANGLE-HEADED ARROW TO BARaRIGHTWARDS TRIANGLE-HEADED ARROW TO BARaDOWNWARDS TRIANGLE-HEAD",
    "ED ARROW TO BAR..aNORTH WEST TRIANGLE-HEADED ARROW TO BARgEAST TRIANGLE-HEADED ARROW TO BARa",
    "SOUTH EAST TRIANGLE-HEADED ARROW TO BARgWEST TRIANGLE-HEADED ARROW TO BARaLEFTWARDS TRIANGLE",
    "-HEADED ARROW WITH DOUBLE HORIZONTAL STROKEaUPWARDS TRIANGLE-HEADED ARROW WITH DOUBLE HORIZO",
    "NTAL STROKEaRIGHTWARDS TRIANGLE-HEADED ARROW WITH DOUBLE HORIZONTAL STROKEaDOWNWARDS TRIANGL",
    "E-HEADED ARROW WITH DOUBLE HORIZONTAL STROKEaHORIZONTAL TAB KEYaVERTICAL TAB KEYaLEFTWARDS T",
    "RIANGLE-HEADED ARROW OVER RIGHTWARDS TRIANGLE-HEADED ARROWaUPWARDS TRIANGLE-HEADED ARROW LEF",
    "TWARDS OF DOWNWARDS TRIANGLE-HEADED ARROWaRIGHTWARDS TRIANGLE-HEADED ARROW OVER LEFTWARDS TR",
    "IANGLE-HEADED ARROWaDOWNWARDS TRIANGLE-HEADED ARROW LEFTWARDS OF UPWARDS TRIANGLE-HEADED ARR",
    "OWaLEFTWARDS TRIANGLE-HEADED PAIRED ARROWSaUPWARDS TRIANGLE-HEADED PAIRED ARROWSaRIGHTWARDS ",
    "TRIANGLE-HEADED PAIRED ARROWSaDOWNWARDS TRIANGLE-HEADED PAIRED ARROWSaLEFTWARDS BLACK CIRCLE",
    "D WHITE ARROWaUPWARDS BLACK CIRCLED WHITE ARROWaRIGHTWARDS BLACK CIRCLED WHITE ARROWaDOWNWAR",
    "DS BLACK CIRCLED WHITE ARROWaANTICLOCKWISE TRIANGLE-HEADED RIGHT U-SHAPED ARROWzfBOTTOM U-SH",
    "APED ARROWzfLEFT U-SHAPED ARROWzfTOP U-SHAPED ARROWaRETURN LEFThRIGHTaNEWLINE LEFTiRIGHTaFOU",
    "R CORNER ARROWS CIRCLING ANTICLOCKWISEaRIGHTWARDS BLACK ARROW.aSYMBOL FOR TYPE A ELECTRONICS",
    "aTHREE-D TOP-LIGHTED LEFTWARDS EQUILATERAL ARROWHEADiRIGHT-LIGHTED UPWARDS EQUILATERAL ARROW",
    "HEADiTOP-LIGHTED RIGHTWARDS EQUILATERAL ARROWHEADiLEFT-LIGHTED DOWNWARDS EQUILATERAL ARROWHE",
    "ADaBLACK LEFTWARDS EQUILATERAL ARROWHEADgUPWARDS EQUILATERAL ARROWHEADgRIGHTWARDS EQUILATERA",
    "L ARROWHEADgDOWNWARDS EQUILATERAL ARROWHEADaDOWNWARDS TRIANGLE-HEADED ARROW WITH LONG TIP LE",
    "FTWARDSzvRIGHTWARDSaUPWARDS TRIANGLE-HEADED ARROW WITH LONG TIP LEFTWARDSztRIGHTWARDSaLEFTWA",
    "RDS TRIANGLE-HEADED ARROW WITH LONG TIP UPWARDSaRIGHTWARDS TRIANGLE-HEADED ARROW WITH LONG T",
    "IP UPWARDSaLEFTWARDS TRIANGLE-HEADED ARROW WITH LONG TIP DOWNWARDSaRIGHTWARDS TRIANGLE-HEADE",
    "D ARROW WITH LONG TIP DOWNWARDSaBLACK CURVED DOWNWARDS AND LEFTWARDS ARROWzcRIGHTWARDS ARROW",
    "nUPWARDS AND LEFTWARDS ARROWzaRIGHTWARDS ARROWnLEFTWARDS AND UPWARDS ARROWnRIGHTWARDS AND UP",
    "WARDS ARROWnLEFTWARDS AND DOWNWARDS ARROWnRIGHTWARDS AND DOWNWARDS ARROWaRIBBON ARROW DOWN L",
    "EFTsRIGHTnUP LEFTqRIGHTnLEFT UPnRIGHT UPnLEFT DOWNnRIGHT DOWNaUPWARDS WHITE ARROW FROM BAR W",
    "ITH HORIZONTAL BARc ARROWHEAD IN A RECTANGLE BOXaOVERLAPPING WHITE SQUARESsAND BLACK SQUARES",
    "mBLACK SQUARESaBALLOT BOX WITH LIGHT XaCIRCLED XiBOLD XaBLACK SQUARE CENTREDgDIAMOND CENTRED",
    "aTURNED BLACK PENTAGONaHORIZONTAL BLACK OCTAGONaBLACK OCTAGONgMEDIUM UP-POINTING TRIANGLE CE",
    "NTREDnDOWN-POINTING TRIANGLE CENTREDnLEFT-POINTING TRIANGLE CENTREDnRIGHT-POINTING TRIANGLE ",
    "CENTREDaNEPTUNE FORM TWOaTOP HALF BLACK CIRCLEaBOTTOM HALF BLACK CIRCLEaLIGHT FOUR POINTED B",
    "LACK CUSPaROTATED LIGHT FOUR POINTED BLACK CUSPaWHITE FOUR POINTED CUSPaROTATED WHITE FOUR P",
    "OINTED CUSPaSQUARE POSITION INDICATORaUNCERTAINTY SIGNaGROUP MARKaPLUTO FORM TWOmHREElFOURmI",
    "VEaTRANSPLUTOaPROSERPINAaASTRAEAaHYGIEAaPHOLUSaNESSUSaWHITE MOON SELENAaBLACK DIAMOND ON CRO",
    "SSaTRUE LIGHT MOON ARTAaCUPIDOaHADESaZEUSaKRONOSaAPOLLONbDMETOSaVULCANUSaPOSEIDONaLEFT HALF ",
    "BLACK STARaRIGHT HALF BLACK STARaSTAR WITH LEFT HALF BLACKkRIGHT HALF BLACKaLEFTWARDS TWO-HE",
    "ADED ARROW WITH TRIANGLE ARROWHEADSaUPWARDS TWO-HEADED ARROW WITH TRIANGLE ARROWHEADSaRIGHTW",
    "ARDS TWO-HEADED ARROW WITH TRIANGLE ARROWHEADSaDOWNWARDS TWO-HEADED ARROW WITH TRIANGLE ARRO",
    "WHEADSaERIS FORM ONEkTWOaSEDNAaRUSSIAN ASTROLOGICAL SYMBOL VIGINTILEzdNOVILEzdQUINTILEzdBINO",
    "VILEzdSENTAGONzdTREDECILEaEQUALS SIGN WITH INFINITY BELOWaUNITED SYMBOLaSEPARATED SYMBOLaDOU",
    "BLED SYMBOLaPASSED SYMBOLaREVERSED RIGHT ANGLEaHELLSCHREIBER PAUSE SYMBOLaGLAGOLITIC CAPITAL",
    " LETTER AZUzbBUKYzbVEDEzbGLAGOLIzbDOBROzbYESTUzbZHIVETEzbDZELOzbZEMLJAzbIZHEzcNITIAL IZHEzcz",
    "bDJERVIzbKAKOzbLJUDIJEzbMYSLITEzbNASHIzbONUzbPOKOJIzbRITSIzbSLOVOzbTVRIDOzbUKUzbFRITUzbHERUz",
    "bOTUzbPEzbSHTAzbTSIzbCHRIVIzbSHAzbYERUzeIzcATIzbSPIDERY HAzbYUzbSMALL YUSzk WITH TAILzbYOzbI",
    "OTATED SMALL YUSzbBIG YUSzbIOTATED BIG YUSzbFITAzbIZHITSAzbSHTAPICzbTROKUTASTI AzbLATINATE M",
    "YSLITEzbCAUDATE CHRIVIlSMALL LETTER AZUyBUKYyVEDEyGLAGOLIyDOBROyYESTUyZHIVETEyDZELOyZEMLJAyI",
    "ZHEzaNITIAL IZHEzayDJERVIyKAKOyLJUDIJEyMYSLITEyNASHIyONUyPOKOJIyRITSIySLOVOyTVRIDOyUKUyFRITU",
    "yHERUyOTUyPEySHTAyTSIyCHRIVIySHAyYERUzcIzaATIySPIDERY HAyYUySMALL YUSzi WITH TAILyYOyIOTATED",
    " SMALL YUSyBIG YUSyIOTATED BIG YUSyFITAyIZHITSAySHTAPICyTROKUTASTI AyLATINATE MYSLITEyCAUDAT",
    "E CHRIVIaLATIN CAPITAL LETTER L WITH DOUBLE BARgSMALL LETTER L WITH DOUBLE BARgCAPITAL LETTE",
    "R L WITH MIDDLE TILDEvP WITH STROKEvR WITH TAILgSMALL LETTER A WITH STROKEtT WITH DIAGONAL S",
    "TROKEgCAPITAL LETTER H WITH DESCENDERgSMALL LETTER H WITH DESCENDERgCAPITAL LETTER K WITH DE",
    "SCENDERgSMALL LETTER K WITH DESCENDERgCAPITAL LETTER Z WITH DESCENDERgSMALL LETTER Z WITH DE",
    "SCENDERgCAPITAL LETTER ALPHAvM WITH HOOKvTURNED AzeLPHAgSMALL LETTER V WITH RIGHT HOOKgCAPIT",
    "AL LETTER W WITH HOOKgSMALL LETTER W WITH HOOKtV WITH CURLgCAPITAL LETTER HALF HgSMALL LETTE",
    "R HALF HtTAILLESS PHItE WITH NOTCHtTURNED R WITH TAILtO WITH LOW RING INSIDEgLETTER SMALL CA",
    "PITAL TURNED EgSUBSCRIPT SMALL LETTER JaMODIFIER LETTER CAPITAL VaLATIN CAPITAL LETTER S WIT",
    "H SWASH TAILvZ WITH SWASH TAILaCOPTIC CAPITAL LETTER ALFAhSMALL LETTER ALFAhCAPITAL LETTER V",
    "IDAhSMALL LETTER VIDAhCAPITAL LETTER GAMMAhSMALL LETTER GAMMAhCAPITAL LETTER DALDAhSMALL LET",
    "TER DALDAhCAPITAL LETTER EIEhSMALL LETTER EIEhCAPITAL LETTER SOUhSMALL LETTER SOUhCAPITAL LE",
    "TTER ZATAhSMALL LETTER ZATAhCAPITAL LETTER HATEhSMALL LETTER HATEhCAPITAL LETTER THETHEhSMAL",
    "L LETTER THETHEhCAPITAL LETTER IAUDAhSMALL LETTER IAUDAhCAPITAL LETTER KAPAhSMALL LETTER KAP",
    "AhCAPITAL LETTER LAULAhSMALL LETTER LAULAhCAPITAL LETTER MIhSMALL LETTER MIhCAPITAL LETTER N",
    "IhSMALL LETTER NIhCAPITAL LETTER KSIhSMALL LETTER KSIhCAPITAL LETTER OhSMALL LETTER OhCAPITA",
    "L LETTER PIhSMALL LETTER PIhCAPITAL LETTER ROhSMALL LETTER ROhCAPITAL LETTER SIMAhSMALL LETT",
    "ER SIMAhCAPITAL LETTER TAUhSMALL LETTER TAUhCAPITAL LETTER UAhSMALL LETTER UAhCAPITAL LETTER",
    " FIhSMALL LETTER FIhCAPITAL LETTER KHIhSMALL LETTER KHIhCAPITAL LETTER PSIhSMALL LETTER PSIh",
    "CAPITAL LETTER OOUhSMALL LETTER OOUhCAPITAL LETTER DIALECT-P ALEFhSMALL LETTER DIALECT-P ALE",
    "FhCAPITAL LETTER OLD COPTIC AINhSMALL LETTER OLD COPTIC AINhCAPITAL LETTER CRYPTOGRAMMIC EIE",
    "hSMALL LETTER CRYPTOGRAMMIC EIEhCAPITAL LETTER DIALECT-P KAPAhSMALL LETTER DIALECT-P KAPAhCA",
    "PITAL LETTER DIALECT-P NIhSMALL LETTER DIALECT-P NIhCAPITAL LETTER CRYPTOGRAMMIC NIhSMALL LE",
    "TTER CRYPTOGRAMMIC NIhCAPITAL LETTER OLD COPTIC OOUhSMALL LETTER OLD COPTIC OOUhCAPITAL LETT",
    "ER SAMPIhSMALL LETTER SAMPIhCAPITAL LETTER CROSSED SHEIhSMALL LETTER CROSSED SHEIhCAPITAL LE",
    "TTER OLD COPTIC SHEIhSMALL LETTER OLD COPTIC SHEIhCAPITAL LETTER OLD COPTIC ESHhSMALL LETTER",
    " OLD COPTIC ESHhCAPITAL LETTER AKHMIMIC KHEIhSMALL LETTER AKHMIMIC KHEIhCAPITAL LETTER DIALE",
    "CT-P HORIhSMALL LETTER DIALECT-P HORIhCAPITAL LETTER OLD COPTIC HORIhSMALL LETTER OLD COPTIC",
    " HORIhCAPITAL LETTER OLD COPTIC HAhSMALL LETTER OLD COPTIC HAhCAPITAL LETTER L-SHAPED HAhSMA",
    "LL LETTER L-SHAPED HAhCAPITAL LETTER OLD COPTIC HEIhSMALL LETTER OLD COPTIC HEIhCAPITAL LETT",
    "ER OLD COPTIC HAThSMALL LETTER OLD COPTIC HAThCAPITAL LETTER OLD COPTIC GANGIAhSMALL LETTER ",
    "OLD COPTIC GANGIAhCAPITAL LETTER OLD COPTIC DJAhSMALL LETTER OLD COPTIC DJAhCAPITAL LETTER O",
    "LD COPTIC SHIMAhSMALL LETTER OLD COPTIC SHIMAhCAPITAL LETTER OLD NUBIAN SHIMAhSMALL LETTER O",
    "LD NUBIAN SHIMAhCAPITAL LETTER OLD NUBIAN NGIhSMALL LETTER OLD NUBIAN NGIhCAPITAL LETTER OLD",
    " NUBIAN NYIhSMALL LETTER OLD NUBIAN NYIhCAPITAL LETTER OLD NUBIAN WAUhSMALL LETTER OLD NUBIA",
    "N WAUiYMBOL KAIoMI ROoPI ROoSTAUROSoTAU ROoKHI ROoSHIMA SIMAhCAPITAL LETTER CRYPTOGRAMMIC SH",
    "EIhSMALL LETTER CRYPTOGRAMMIC SHEIhCAPITAL LETTER CRYPTOGRAMMIC GANGIAhSMALL LETTER CRYPTOGR",
    "AMMIC GANGIAhCOMBINING NI ABOVErSPIRITUS ASPERzbLENISiAPITAL LETTER BOHAIRIC KHEIhSMALL LETT",
    "ER BOHAIRIC KHEI.....hOLD NUBIAN FULL STOPsDIRECT QUESTION MARKsINDIRECT QUESTION MARKsVERSE",
    " DIVIDERhFRACTION ONE HALFiULL STOPhMORPHOLOGICAL DIVIDERaGEORGIAN SMALL LETTER ANwBANwGANwD",
    "ONwENwVINwZENwTANwINwKANwLASwMANwNARwONwPARwZHARwRAEwSANwTARwUNwPHARwKHARwGHANwQARwSHINwCHIN",
    "xANwJILwCILxHARwXANwJHANwHAExExIEwWEwHARxOE.wYN.....wAEN..aTIFINAGH LETTER YAsBtHsGtHHqBERBE",
    "R ACADEMY YAJqYAJsDtHtDuHrEYrAFsKqTUAREG YAKqYAKHHsHqBERBER ACADEMY YAHqTUAREG YAHqYAHHsAsKH",
    "qTUAREG YAKHqYAQqTUAREG YAQqYIrAZHqAHAGGAR YAZHqTUAREG YAZHqYALsMsNqTUAREG YAGNzaNGqYAPrUrAR",
    "tRsGHqTUAREG YAGHqAYER YAGHqYAStStHsTtHsCHsTTsVsWsYsZqTAWELLEMET YAZqYAZZrErO.......jMODIFIE",
    "R LETTER LABIALIZATION MARKjSEPARATOR MARK..............jCONSONANT JOINERaETHIOPIC SYLLABLE ",
    "LOAsMOAsROAsSOAtHOAsBOAsTOAsCOAsNOAtYOAsGLOTTAL OAsZOAsDOAtDOAsJOAsTHOAsCHOAsPHOAtOAsGGWAvIv",
    "EEw.........sSSAuUuIuAAuEEvuO.sCCAuUuIuAAuEEvuO.sZZAuUuIuAAuEEvuO.sCCHAvUvIvAAvEEwvO.sQYAuUu",
    "IuAAuEEvuO.sKYAuUuIuAAuEEvuO.sXYAuUuIuAAuEEvuO.sGYAuUuIuAAuEEvuO.aCOMBINING CYRILLIC LETTER ",
    "BEzbVEzbGHEzbDEzbZHEzcEzbKAzbELzcMzcNzbOzbPEzbERzcSzbTEzbHAzbTSEzbCHEzbSHAzdCHAzbFITAzbES-TE",
    "zbAzbIEzbDJERVzbMONOGRAPH UKzbYATzcUzbIOTIFIED AzbLITTLE YUSzbBIG YUSzbIOTIFIED BIG YUSaRIGH",
    "T ANGLE SUBSTITUTION MARKERmDOTTED SUBSTITUTION MARKERaLEFT SUBSTITUTION BRACKETaRIGHT SUBST",
    "ITUTION BRACKETaLEFT DOTTED SUBSTITUTION BRACKETaRIGHT DOTTED SUBSTITUTION BRACKETbAISED INT",
    "ERPOLATION MARKERhDOTTED INTERPOLATION MARKERaDOTTED TRANSPOSITION MARKERaLEFT TRANSPOSITION",
    " BRACKETaRIGHT TRANSPOSITION BRACKETbAISED SQUAREaLEFT RAISED OMISSION BRACKETaRIGHT RAISED ",
    "OMISSION BRACKETaEDITORIAL CORONISaPARAGRAPHOSaFORKED PARAGRAPHOSaREVERSED FORKED PARAGRAPHO",
    "SaHYPODIASTOLEaDOTTED OBELOScWNWARDS ANCORAaUPWARDS ANCORAaDOTTED RIGHT-POINTING ANGLEcUBLE ",
    "OBLIQUE HYPHENaINVERTED INTERROBANGaPALM BRANCHaHYPHEN WITH DIAERESISaTILDE WITH RING ABOVEa",
    "LEFT LOW PARAPHRASE BRACKETaRIGHT LOW PARAPHRASE BRACKETaTILDE WITH DOT ABOVEpBELOWaLEFT VER",
    "TICAL BAR WITH QUILLaRIGHT VERTICAL BAR WITH QUILLaTOP LEFT HALF BRACKETeRIGHT HALF BRACKETa",
    "BOTTOM LEFT HALF BRACKEThRIGHT HALF BRACKETaLEFT SIDEWAYS U BRACKETaRIGHT SIDEWAYS U BRACKET",
    "aLEFT DOUBLE PARENTHESISaRIGHT DOUBLE PARENTHESISaTWO DOTS OVER ONE DOT PUNCTUATIONaONE DOT ",
    "OVER TWO DOTS PUNCTUATIONaSQUARED FOUR DOT PUNCTUATIONaFIVE DOT MARKaREVERSED QUESTION MARKa",
    "VERTICAL TILDEaRING POINTaWORD SEPARATOR MIDDLE DOTaTURNED COMMAaRAISED DOThCOMMAaTURNED SEM",
    "ICOLONaDAGGER WITH LEFT GUARDmRIGHT GUARDaTURNED DAGGERbOP HALF SECTION SIGNbWO-EM DASHbHREE",
    "-EM DASHaSTENOGRAPHIC FULL STOPaVERTICAL SIX DOTSaWIGGLY VERTICAL LINEaCAPITULUMaDOUBLE HYPH",
    "ENaREVERSED COMMAaDOUBLE LOW-REVERSED-9 QUOTATION MARKbASH WITH LEFT UPTURNbOUBLE SUSPENSION",
    " MARKaINVERTED LOW KAVYKAt WITH KAVYKA ABOVEaLOW KAVYKAk WITH DOTaDOUBLE STACKED COMMAcTTED ",
    "SOLIDUSaTRIPLE DAGGERaMEDIEVAL COMMAaPARAGRAPHUS MARKbUNCTUS ELEVATUS MARKaCORNISH VERSE DIV",
    "IDERbROSS PATTY WITH RIGHT CROSSBARrLEFT CROSSBARaTIRONIAN SIGN CAPITAL ETaMEDIEVAL EXCLAMAT",
    "ION MARKjQUESTION MARKaLEFT SQUARE BRACKET WITH STROKEaRIGHT SQUARE BRACKET WITH STROKEaLEFT",
    " SQUARE BRACKET WITH DOUBLE STROKEaRIGHT SQUARE BRACKET WITH DOUBLE STROKEaTOP HALF LEFT PAR",
    "ENTHESISjRIGHT PARENTHESISaBOTTOM HALF LEFT PARENTHESISmRIGHT PARENTHESISaOBLIQUE HYPHEN"]),
  (0x2E80, ["aCJK RADICAL REPEATmCLIFFmSECOND ONEtTWOuHREEmPERSONmBOXmTABLEmKNIFE ONEsTWOmDIVINAT",
    "IONmSEALnMALL ONEsTWOmLAME ONErTWOsHREErFOURmSNAKEmTHREADmSNOUT ONEsTWOmHEART ONEsTWOnANDmRA",
    "P.mCHOKEmSUNmMOONmDEATHmMOTHERmCIVILIANmWATER ONEsTWOmFIREmPAW ONEqTWOmSIMPLIFIED HALF TREE ",
    "TRUNKmCOWmDOGmJADEmBOLT OF CLOTHmEYEmSPIRIT ONEtTWOmBAMBOOmSILKmC-SIMPLIFIED SILKmNET ONEqTW",
    "OrHREEqFOURmMESHmSHEEPmRAMmEWEmOLDmBRUSH ONEsTWOmMEATnORTARmGRASS ONEsTWOtHREEmTIGERmCLOTHES",
    "mWEST ONErTWOmC-SIMPLIFIED SEEmSIMPLIFIED HORNmHORNmC-SIMPLIFIED SPEECHzbHELLmFOOTmC-SIMPLIF",
    "IED CARTmSIMPLIFIED WALKmWALK ONErTWOmCITYn-SIMPLIFIED GOLDmLONG ONErTWOmC-SIMPLIFIED LONGza",
    "GATEmMOUND ONEsTWOmRAINmBLUEmC-SIMPLIFIED TANNED LEATHERzaLEAFzaWINDzaFLYmEAT ONEqTWOrHREEmC",
    "-SIMPLIFIED EATmHEADmC-SIMPLIFIED HORSEmBONEmGHOSTmC-SIMPLIFIED FISHzaBIRDzaSALTmSIMPLIFIED ",
    "WHEATxYELLOWmC-SIMPLIFIED FROGmJ-SIMPLIFIED EVENmC-SIMPLIFIED EVENmJ-SIMPLIFIED TOOTHmC-SIMP",
    "LIFIED TOOTHmJ-SIMPLIFIED DRAGONmC-SIMPLIFIED DRAGONmTURTLEmJ-SIMPLIFIED TURTLEmC-SIMPLIFIED",
    " TURTLE............aKANGXI RADICAL ONEpLINEpDOTpSLASHqECONDpHOOKpTWOpLIDpMANpLEGSpENTERqIGHT",
    "pDOWN BOXpCOVERpICEpTABLEpOPEN BOXpKNIFEpPOWERpWRAPpSPOONpRIGHT OPEN BOXpHIDING ENCLOSUREpTE",
    "NpDIVINATIONpSEALpCLIFFpPRIVATEpAGAINpMOUTHpENCLOSUREqARTHpSCHOLARpGOr SLOWLYpEVENINGpBIGpWO",
    "MANpCHILDpROOFpINCHpSMALLpLAMEpCORPSEpSPROUTpMOUNTAINpRIVERpWORKpONESELFpTURBANpDRYpSHORT TH",
    "READpDOTTED CLIFFpLONG STRIDEpTWO HANDSpSHOOTpBOWpSNOUTpBRISTLEpSTEPpHEARTqALBERDpDOORpHANDp",
    "BRANCHpRAPpSCRIPTpDIPPERpAXEpSQUAREpNOTpSUNqAYpMOONpTREEpLACKpSTOPpDEATHpWEAPONpDO NOTpCOMPA",
    "REpFURpCLANpSTEAMpWATERpFIREpCLAWpFATHERpDOUBLE XpHALF TREE TRUNKpSLICEpFANGpCOWpDOGpPROFOUN",
    "DpJADEpMELONpTILEpSWEETpLIFEpUSEpFIELDpBOLT OF CLOTHpSICKNESSpDOTTED TENTpWHITEpSKINpDISHpEY",
    "EpSPEARpARROWpSTONEqPIRITpTRACKpGRAINpCAVEpSTANDpBAMBOOpRICEpSILKpJARpNETpSHEEPpFEATHERpOLDp",
    "ANDpPLOWpEARpBRUSHpMEATqINISTERpSELFpARRIVEpMORTARpTONGUEpOPPOSEpBOATpSTOPPINGpCOLORpGRASSpT",
    "IGERpINSECTpBLOODpWALK ENCLOSUREpCLOTHESpWESTpSEEpHORNpSPEECHpVALLEYpBEANpPIGpBADGERpSHELLpR",
    "EDqUNpFOOTpBODYpCARTpBITTERpMORNINGpWALKpCITYpWINEpDISTINGUISHpVILLAGEpGOLDpLONGpGATEpMOUNDp",
    "SLAVEqHORT TAILED BIRDpRAINpBLUEpWRONGpFACEpLEATHERpTANNED LEATHERpLEEKpSOUNDpLEAFpWINDpFLYp",
    "EATpHEADpFRAGRANTpHORSEpBONEpTALLpHAIRpFIGHTpSACRIFICIAL WINEpCAULDRONpGHOSTpFISHpBIRDpSALTp",
    "DEERpWHEATpHEMPpYELLOWpMILLETpBLACKpEMBROIDERYpFROGpTRIPODpDRUMpRATpNOSEpEVENpTOOTHpDRAGONpT",
    "URTLEpFLUTE"]),
  (0x2FF0, ["aIDEOGRAPHIC DESCRIPTION CHARACTER LEFT TO RIGHTzjABOVE TO BELOWzjLEFT TO MIDDLE AND",
    " RIGHTzjABOVE TO MIDDLE AND BELOWzjFULL SURROUNDzjSURROUND FROM ABOVEzxBELOWzxLEFTzxUPPER LE",
    "FTzzeRIGHTzxLOWER LEFTzjOVERLAID....mSPACEmCOMMAmFULL STOPaDITTO MARKaJAPANESE INDUSTRIAL ST",
    "ANDARD SYMBOLaIDEOGRAPHIC ITERATION MARKmCLOSING MARKmNUMBER ZEROaLEFT ANGLE BRACKETaRIGHT A",
    "NGLE BRACKETaLEFT DOUBLE ANGLE BRACKETaRIGHT DOUBLE ANGLE BRACKETaLEFT CORNER BRACKETaRIGHT ",
    "CORNER BRACKETaLEFT WHITE CORNER BRACKETaRIGHT WHITE CORNER BRACKETaLEFT BLACK LENTICULAR BR",
    "ACKETaRIGHT BLACK LENTICULAR BRACKETaPOSTAL MARKaGETA MARKaLEFT TORTOISE SHELL BRACKETaRIGHT",
    " TORTOISE SHELL BRACKETaLEFT WHITE LENTICULAR BRACKETaRIGHT WHITE LENTICULAR BRACKETaLEFT WH",
    "ITE TORTOISE SHELL BRACKETaRIGHT WHITE TORTOISE SHELL BRACKETaLEFT WHITE SQUARE BRACKETaRIGH",
    "T WHITE SQUARE BRACKETaWAVE DASHaREVERSED DOUBLE PRIME QUOTATION MARKaDOUBLE PRIME QUOTATION",
    " MARKaLOW DOUBLE PRIME QUOTATION MARKaPOSTAL MARK FACEaHANGZHOU NUMERAL ONErTWOsHREErFOURsIV",
    "ErSIXsEVENrEIGHTrNINEaIDEOGRAPHIC LEVEL TONE MARKmRISING TONE MARKmDEPARTING TONE MARKmENTER",
    "ING TONE MARKaHANGUL SINGLE DOT TONE MARKhDOUBLE DOT TONE MARKaWAVY DASHaVERTICAL KANA REPEA",
    "T MARKvWITH VOICED SOUND MARKvMARK UPPER HALFvWITH VOICED SOUND MARK UPPER HALFvMARK LOWER H",
    "ALFaCIRCLED POSTAL MARKaIDEOGRAPHIC TELEGRAPH LINE FEED SEPARATOR SYMBOLaHANGZHOU NUMERAL TE",
    "NsWENTYsHIRTYaVERTICAL IDEOGRAPHIC ITERATION MARKaMASU MARKaPART ALTERNATION MARKaIDEOGRAPHI",
    "C VARIATION INDICATORmHALF FILL SPACE.aHIRAGANA LETTER SMALL AqAqSMALL IqIqSMALL UqUqSMALL E",
    "qEqSMALL OqOqKAqGAqKIqGIqKUqGUqKEqGEqKOqGOqSAqZAqSIqZIqSUqZUqSEqZEqSOqZOqTAqDAqTIqDIqSMALL T",
    "UqTUqDUqTEqDEqTOqDOqNArIrUrErOqHAqBAqPAqHIqBIqPIqHUqBUqPUqHEqBEqPEqHOqBOqPOqMArIrUrErOqSMALL",
    " YAqYAqSMALL YUqYUqSMALL YOqYOqRArIrUrErOqSMALL WAqWArIrErOqNqVUqSMALL KAxE..aCOMBINING KATA",
    "KANA-HIRAGANA VOICED SOUND MARKzdSEMI-VOICED SOUND MARKaKATAKANA-HIRAGANA VOICED SOUND MARKs",
    "SEMI-VOICED SOUND MARKaHIRAGANA ITERATION MARKjVOICED ITERATION MARKjDIGRAPH YORIaKATAKANA-H",
    "IRAGANA DOUBLE HYPHENi LETTER SMALL AqAqSMALL IqIqSMALL UqUqSMALL EqEqSMALL OqOqKAqGAqKIqGIq",
    "KUqGUqKEqGEqKOqGOqSAqZAqSIqZIqSUqZUqSEqZEqSOqZOqTAqDAqTIqDIqSMALL TUqTUqDUqTEqDEqTOqDOqNArIr",
    "UrErOqHAqBAqPAqHIqBIqPIqHUqBUqPUqHEqBEqPEqHOqBOqPOqMArIrUrErOqSMALL YAqYAqSMALL YUqYUqSMALL ",
    "YOqYOqRArIrUrErOqSMALL WAqWArIrErOqNqVUqSMALL KAxEqVArIrErOjMIDDLE DOTi-HIRAGANA PROLONGED S",
    "OUND MARKi ITERATION MARKjVOICED ITERATION MARKjDIGRAPH KOTO.....aBOPOMOFO LETTER BqPqMqFqDq",
    "TqNqLqGqKqHqJqQqXqZHqCHqSHqRqZqCqSqAqOqErHqAIqEIqAUqOUqANqENqANGqENGrRqIqUqIUqVqNGqGNqIHqO W",
    "ITH DOT ABOVEqNN.aHANGUL LETTER KIYEOKoSSANGKIYEOKoKIYEOK-SIOSoNIEUNt-CIEUCuHIEUHoTIKEUToSSA",
    "NGTIKEUToRIEULt-KIYEOKuMIEUMuPIEUPuSIOSuTHIEUTHuPHIEUPHuHIEUHoMIEUMoPIEUPoSSANGPIEUPoPIEUP-S",
    "IOSoSIOSpSANGSIOSoIEUNGoCIEUCoSSANGCIEUCoCHIEUCHoKHIEUKHoTHIEUTHoPHIEUPHoHIEUHoApEoYAqEoEOpo",
    "YEOqoOoWAqEoOEoYOoUoWEOqpIoYUoEUoYIoIhFILLERhLETTER SSANGNIEUNoNIEUN-TIKEUTuSIOSuPANSIOSoRIE",
    "UL-KIYEOK-SIOSuTIKEUTuPIEUP-SIOSvANSIOSuYEORINHIEUHoMIEUM-PIEUPuSIOSuPANSIOSoKAPYEOUNMIEUMoP",
    "IEUP-KIYEOKuTIKEUTuSIOS-KIYEOKzaTIKEUTuCIEUCuTHIEUTHoKAPYEOUNPIEUPwSSANGPIEUPoSIOS-KIYEOKtNI",
    "EUNtTIKEUTtPIEUPtCIEUCoPANSIOSoSSANGIEUNGoYESIEUNGw-SIOSxPANSIOSoKAPYEOUNPHIEUPHoSSANGHIEUHo",
    "YEORINHIEUHpO-YAtErIpU-YEOtrIoARAEAtE.aIDEOGRAPHIC ANNOTATION LINKING MARKxREVERSE MARKxONE ",
    "MARKxTWO MARKyHREE MARKxFOUR MARKxTOP MARKxMIDDLE MARKxBOTTOM MARKxFIRST MARKxSECOND MARKxTH",
    "IRD MARKxFOURTH MARKxHEAVEN MARKxEARTH MARKxMAN MARKaBOPOMOFO LETTER BUqZIqJIqGUqEErNNqOOrNN",
    "qIRqANNqINNqUNNqIMqNGGqAINNrUNNrMqOMrNGqINNNjFINAL LETTER PwTwKwHjLETTER GHqLHqZYjFINAL LETT",
    "ER GjLETTER GWqKWqOEqAHaCJK STROKE TlWGlXGlBXGlSWlHZZnGmPmZWGlSZWGlHZTnZPmPWGmZWnZZlNlHlSlPl",
    "SPlDlHZmGlSZmWZmTmGlPDmZlTNlSZZmWGlHXWGmZZZGlPGlQ............aKATAKANA LETTER SMALL KUwSIxUw",
    "TOwNUwHAxIxUxExOwMUwRAxIxUxExOaPARENTHESIZED HANGUL KIYEOKvNIEUNvTIKEUTvRIEULvMIEUMvPIEUPvSI",
    "OSvIEUNGvCIEUCwHIEUCHvKHIEUKHvTHIEUTHvPHIEUPHvHIEUHvKIYEOK AvNIEUN AvTIKEUT AvRIEUL AvMIEUM ",
    "AvPIEUP AvSIOS AvIEUNG AvCIEUC AwHIEUCH AvKHIEUKH AvTHIEUTH AvPHIEUPH AvHIEUH AvCIEUC UoKORE",
    "AN CHARACTER OJEONzh HU.oIDEOGRAPH ONEyTWOzaHREEyFOURzaIVEySIXzaEVENyEIGHTyNINEyTENyMOONyFIR",
    "EyWATERzaOODyMETALyEARTHySUNzaTOCKyHAVEySOCIETYyNAMEySPECIALyFINANCIALyCONGRATULATIONyLABORy",
    "REPRESENTyCALLySTUDYzaUPERVISEyENTERPRISEyRESOURCEyALLIANCEyFESTIVALyRESTySELFyREACHaCIRCLED",
    " IDEOGRAPH QUESTIONsKINDERGARTENsSCHOOLsKOTOiNUMBER TEN ON BLACK SQUAREqWENTY ON BLACK SQUAR",
    "EqHIRTY ON BLACK SQUAREpFORTY ON BLACK SQUAREqIFTY ON BLACK SQUAREpSIXTY ON BLACK SQUAREqEVE",
    "NTY ON BLACK SQUAREpEIGHTY ON BLACK SQUAREaPARTNERSHIP SIGNaCIRCLED NUMBER TWENTY ONEwTWOxHR",
    "EEwFOURxIVEwSIXxEVENwEIGHTwNINEqHIRTYv ONEwTWOxHREEwFOURxIVEiHANGUL KIYEOKpNIEUNpTIKEUTpRIEU",
    "LpMIEUMpPIEUPpSIOSpIEUNGpCIEUCqHIEUCHpKHIEUKHpTHIEUTHpPHIEUPHpHIEUHpKIYEOK ApNIEUN ApTIKEUT ",
    "ApRIEUL ApMIEUM ApPIEUP ApSIOS ApIEUNG ApCIEUC AqHIEUCH ApKHIEUKH ApTHIEUTH ApPHIEUPH ApHIEU",
    "H AiKOREAN CHARACTER CHAMKOzaJUEUIiHANGUL IEUNG UaKOREAN STANDARD SYMBOLaCIRCLED IDEOGRAPH O",
    "NEsTWOtHREEsFOURtIVEsSIXtEVENsEIGHTsNINEsTENsMOONsFIREsWATERtOODsMETALsEARTHsSUNtTOCKsHAVEsS",
    "OCIETYsNAMEsSPECIALsFINANCIALsCONGRATULATIONsLABORsSECRETsMALEsFEMALEsSUITABLEsEXCELLENTsPRI",
    "NTsATTENTIONsITEMsRESTsCOPYuRRECTsHIGHsCENTREsLOWtEFTsRIGHTsMEDICINEsRELIGIONsSTUDYtUPERVISE",
    "sENTERPRISEsRESOURCEsALLIANCEsNIGHTiNUMBER THIRTY SIXxEVENwEIGHTwNINEpFORTYu ONEvTWOwHREEvFO",
    "URwIVEvSIXwEVENvEIGHTvNINEqIFTYaIDEOGRAPHIC TELEGRAPH SYMBOL FOR JANUARYziFEBRUARYziMARCHziA",
    "PRILziMAYziJUNEzkLYziAUGUSTziSEPTEMBERziOCTOBERziNOVEMBERziDECEMBERaSQUARE HGhERGiVaLIMITED ",
    "LIABILITY SIGNaCIRCLED KATAKANA ArIrUrErOrKAsIsUsEsOrSAsIsUsEsOrTAsIsUsEsOrNAsIsUsEsOrHAsIsU",
    "sEsOrMAsIsUsEsOrYAsUsOrRAsIsUsEsOrWAsIsEsOaSQUARE ERA NAME REIWAhAPAATOiRUHUAiNPEAiARUhINING",
    "UjTIhUONhESUKUUDOiEKAAhONSUiOMUhKAIRIjRATTOkORIIhGARONjNMAiIGAjNIIhKYURIIhGIRUDAAhKIROlGURAM",
    "UlMEETORUlWATTOhGURAMUnTONhKURUZEIROkOONEiEESUiORUNAjOPOhSAIKURUjNTIIMUiIRINGUiENTIlOhDAASUi",
    "ESIiORUhTONhNANOiOTTOhHAITUhPAASENTOkTUhBAARERUhPIASUTORUjKURUkOhBIRUhHUARADDOjIITOhBUSSYERU",
    "hHURANiEKUTAARUhPESOjNIHIhHERUTUhPENSUjEZIhBEETAhPOINTOhBORUTOhHONhPONDOhHOORUkNhMAIKUROkRUj",
    "HHAjRUKUjNSYONiIKURONjRIlBAARUiEGAlTONjETORUhYAADOkRUiUANhRITTORUjRAiUPIIjUBURUiEMUjNTOGENhW",
    "ATTOaIDEOGRAPHIC TELEGRAPH SYMBOL FOR HOUR ZEROznONEznTWOzoHREEznFOURzoIVEznSIXzoEVENznEIGHT",
    "znNINEznTENznELEVENznTWELVEzoHIRTEENznFOURTEENzoIFTEENznSIXTEENzoEVENTEENznEIGHTEENznNINETEE",
    "NznTWENTYzt-ONEzuTWOzvHREEzuFOURaSQUARE HPAhDAhAUhBARhOVhPChDMj SQUAREDkCUBEDhIUhERA NAME HE",
    "ISEIqSYOUWAqTAISYOUqMEIZIhCORPORATIONhPA AMPShNAhMU AiAhKAiBhMBhGBhCALhKCALhPFhNFhMU FkGiGhK",
    "GhHZhKHZhMHZhGHZhTHZhMU LiLhDLhKLhFMhNMhMU MiMhCMhKMhMM SQUAREDhCM SQUAREDhM SQUAREDhKM SQUA",
    "REDhMM CUBEDhCM CUBEDhM CUBEDhKM CUBEDhM OVER Sp SQUAREDhPAhKPAhMPAhGPAhRADk OVER Sr SQUARED",
    "hPShNShMU SiShPVhNVhMU ViVhKVhMV MEGAhPWhNWhMU WiWhKWhMW MEGAhK OHMhM OHMhAMhBQhCCiDi OVER K",
    "GiOhDBhGYhHAiPhINhKKiM CAPITALiThLMiNiOGiXhMB SMALLiILiOLhPHiMiPMiRhSRiVhWBhV OVER MhA OVER ",
    "MaIDEOGRAPHIC TELEGRAPH SYMBOL FOR DAY ONEzmTWOznHREEzmFOURznIVEzmSIXznEVENzmEIGHTzmNINEzmTE",
    "NzmELEVENzmTWELVEznHIRTEENzmFOURTEENznIFTEENzmSIXTEENznEVENTEENzmEIGHTEENzmNINETEENzmTWENTYz",
    "s-ONEztTWOzuHREEztFOURzuIVEztSIXzuEVENztEIGHTztNINEznHIRTYzs-ONEaSQUARE GAL"]),
  (0x4DC0, ["aHEXAGRAM FOR THE CREATIVE HEAVENrRECEPTIVE EARTHnDIFFICULTY AT THE BEGINNINGnYOUTHF",
    "UL FOLLYnWAITINGnCONFLICTnTHE ARMYnHOLDING TOGETHERnSMALL TAMINGnTREADINGnPEACEnSTANDSTILLnF",
    "ELLOWSHIPnGREAT POSSESSIONnMODESTYnENTHUSIASMnFOLLOWINGnWORK ON THE DECAYEDnAPPROACHnCONTEMP",
    "LATIONnBITING THROUGHnGRACEnSPLITTING APARTnRETURNnINNOCENCEnGREAT TAMINGnMOUTH CORNERSnGREA",
    "T PREPONDERANCEnTHE ABYSMAL WATERrCLINGING FIREnINFLUENCEnDURATIONnRETREATnGREAT POWERnPROGR",
    "ESSnDARKENING OF THE LIGHTnTHE FAMILYnOPPOSITIONoBSTRUCTIONnDELIVERANCEpCREASEnINCREASEnBREA",
    "KTHROUGHnCOMING TO MEETnGATHERING TOGETHERnPUSHING UPWARDnOPPRESSIONnTHE WELLnREVOLUTIONnTHE",
    " CAULDRONrAROUSING THUNDERrKEEPING STILL MOUNTAINnDEVELOPMENTnTHE MARRYING MAIDENnABUNDANCEn",
    "THE WANDERERrGENTLE WINDrJOYOUS LAKEnDISPERSIONnLIMITATIONnINNER TRUTHnSMALL PREPONDERANCEnA",
    "FTER COMPLETIONnBEFORE COMPLETION"]),
  (0xA000, ["aYI SYLLABLE ITnXnnPnEToXooPmATnXnnPmUOXooPmOTnXnnPmEXnmWUmBIToXooPoETpXppPnAToXooPn",
    "UOXppPnOToXooPnEXooPnUToXooPoRXpnYToXooPoRXpmPIToXooPoEXppPnAToXooPnUOXppPnOToXooPnUToXooPoR",
    "XpnYToXooPoRXpmBBITpXppPpETqXqqPoATpXppPoUOXqqPoOTpXppPoEXppPoUTpXppPpRXqoYTpXppPmNBITpXppPp",
    "EXqqPoATpXppPoOTpXppPoUTpXppPpRXqoYTpXppPpRXqmHMITpXppPpEXqqPoATpXppPoUOXqqPoOTpXppPoUTpXppP",
    "pRXqoYXppPpRXqmMIToXooPoEXppPnAToXooPnUOTpXppPnOToXooPnEXonUToXooPoRXpnYToXooPmFIToXooPnAToX",
    "ooPnOXooPnUToXooPoRXpnYToXooPmVIToXooPoETpXppPnAToXooPnOToXooPnEXoPnUToXooPoRXpnYToXooPoRXpm",
    "DIToXooPoEXppPnAToXooPnUOXpnOToXooPnEXooPnUToXooPoRXpmTIToXooPoEXppPnAToXooPnUOTpXppPnOToXoo",
    "PnEXooPnUToXooPoRXpmDDITpXppPpEXqqPoATpXppPoUOXqqPoOTpXppPoEXppPoUTpXppPpRXqmNDITpXppPpEXqoA",
    "TpXppPoOTpXppPoEXppPoUTpXppPpRXqmHNITpXppPpETqXqqPoATpXppPoUOXqoOTpXpPoEXppPoUTmNIToXooPoEXp",
    "pPnAXooPnUOXppPnOToXooPnEXooPnUToXooPoRXpmHLITpXppPpEXqqPoATpXppPoUOXqqPoOXppPoEXppPoUTpXppP",
    "pRXqoYTpXppPpRXqmLIToXooPoETpXppPnAToXooPnUOTpXppPnOToXooPnEXooPnUToXooPoRXpnYToXooPoRXpmGIT",
    "oXooPoETpXppPnAToXooPnUOTpXppPnOToXooPnEToXooPnUToXooPoRXpmKIToXooPoEXppPnAToXooPnUOXppPnOTo",
    "XooPnEToXooPnUToXooPoRXpmGGITpXppEXqqPoATpXppPoUOTqXqqPoOTpXppPoETpXppPoUTpXppPpRXqmMGIEXqoA",
    "TpXppPoUOXqqPoOTpXppPoEXppPoUTpXppPpRXqmHXITpXppPpETqXqqPoATpXppPoUOTqXqqPoOTpXppPoEXppPmNGI",
    "EXqqPoATpXppPoUOTqXqoOTpXppPoEXppPmHIToEXpnAToXooPnUOTpXppPnOToXooPnEXooPmWAToXooPnUOXppPnOX",
    "ooPnEXooPmZIToXooPoEXppPnAToXooPnUOXppPnOToXooPnEXooPnUToXooPoRXpnYToXooPoRXpmCIToXooPoETpXp",
    "pPnAToXooPnUOXppPnOToXooPnEXooPnUToXooPoRXpnYToXooPoRXpmZZITpXppPpETqXqqPoATpXppPoOXppPoEXpp",
    "PoUXppPpRXqoYTpXppPpRXqmNZITpXppPpEXqqPoATpXppPoUOXqoOXpPoEXpoUXppPpRXqoYTpXppPpRXqmSIToXooP",
    "oEXppPnAToXooPnUOXppPnOToXooPnEXooPnUToXooPoRXpnYToXooPoRXpnSITpXppPpEXqqPoATpXppPoOTpXppPoE",
    "XppPoUTpXppPoYTpXppPpRXqmZHATpXppPoUOXqqPoOTpXppPoETpXppPoUTpXppPpRXqoYTpXppPpRXqmCHATpXppPo",
    "UOTqXqqPoOTpXppPoETpXppPoUXppPpRXqoYTpXppPpRXqmRRAXpoUOXqoOTpXppPoETpXppPoUTpXppPpRXqoYTpXpp",
    "PpRXqmNRATpXppPoOXppPoETpXppPoUTpXppPpRXqoYTpXppPpRXqmSHATpXppPoUOXqqPoOTpXppPoETpXppPoUTpXp",
    "pPpRXqoYTpXppPpRXqmRAToXooPnUOXppPnOToXooPnEXooPnUToXooPoRXpnYToXooPoRXpmJIToXooPoETpXppPnUO",
    "TpXppPnOToXooPnUToXooPoRXpnYToXooPoRXpmQIToXooPoETpXppPnUOTpXppPnOToXooPnUToXooPoRXpnYToXooP",
    "oRXpmJJITpXppPpETqXqqPoUOXqqPoOTpXppPoUTpXppPpRXqoYTpXppPmNJITpXppPpETqXqqPoUOXqoOTpXppPoUXp",
    "pPpRXqoYTpXppPpRXqnYITpXppPpETqXqqPoUOXqqPoOTpXppPoUTpXppPmXIToXooPoETpXppPnUOXpnOToXooPnYTo",
    "XooPoRXpmYIToXooPoETpXppPnUOTpXppPnOToXooPnUToXooPoRXpnYToXooPoRXp...dRADICAL QOTlLIlKITlNYI",
    "PlCYPlSSIlGGOPmEPlMIlHXITlLYRlBBUTlMOPlYOlPUTlHXUOlTATlGAlZUPlCYTlDDURlBURlGGUOlNYOPlTUlOPlJ",
    "JUTlZOTlPYTlHMOlYITlVURlSHYlVEPlZAlJOlNZUPlJJYlGOTlJJIElWOlDUlSHURlLIElCYmUOPmIPlHXOPlSHATlZ",
    "URlSHOPlCHElZZIETlNBIElKE.........aLISU LETTER BAmPAnHAmDAmTAnHAmGAmKAnHAmJAmCAnHAmDZAmTSAoH",
    "AmMAmNAmLAmSAmZHAnAmNGAmHAmXAmHHAmFAmWAmSHAmYAmGHAmAnEmEnUmImOmUnEnHmOEmTONE MYA TIrNA POrMY",
    "A CYAvBOvNAvJEUfPUNCTUATION COMMArFULL STOPaVAI SYLLABLE EEpNnHEEnWEEqNnPEEnBHEEoEEnMBEEnKPE",
    "EnMGBEEnGBEEnFEEnVEEnTEEoHEEnDHEEpHEEnLEEnREEnDEEnNDEEnSEEoHEEnZEEoHEEnCEEnJEEnNJEEnYEEnKEEn",
    "NGGEEnGEEnMEEnNEEoYEEnIoNnHIpNnWIpNnPInBHIoInMBInKPInMGBInGBInFInVInTIoHInDHIpHInLInRInDInND",
    "InSIoHInZIoHInCInJInNJInYInKInNGGInGInMInNIoYInAoNnNGANnHApNnWApNnPAnBHAoAnMBAnKPAqNnMGBAnGB",
    "AnFAnVAnTAoHAnDHApHAnLAnRAnDAnNDAnSAoHAnZAoHAnCAnJAnNJAnYAnKApNnNGGAnGAnMAnNAoYAnOOpNnHOOnWO",
    "OqNnPOOnBHOOoOOnMBOOnKPOOnMGBOOnGBOOnFOOnVOOnTOOoHOOnDHOOpHOOnLOOnROOnDOOnNDOOnSOOoHOOnZOOoH",
    "OOnCOOnJOOnNJOOnYOOnKOOnNGGOOnGOOnMOOnNOOoYOOnUoNnHUpNnWUpNnPUnBHUoUnMBUnKPUnMGBUnGBUnFUnVUn",
    "TUoHUnDHUpHUnLUnRUnDUnNDUnSUoHUnZUoHUnCUnJUnNJUnYUnKUnNGGUnGUnMUnNUoYUnOoNnNGONnHOpNnWOpNnPO",
    "nBHOoOnMBOnKPOnMGBOnGBOqNnFOnVOnTOoHOnDHOpHOnLOnROnDOnNDOnSOoHOnZOoHOnCOnJOnNJOnYOnKOnNGGOnG",
    "OnMOnNOoYOnEoNnNGENnHEpNnWEpNnPEnBHEoEnMBEnKPEqNnMGBEnGBEqNnFEnVEnTEoHEnDHEpHEnLEnREnDEnNDEn",
    "SEoHEnZEoHEnCEnJEnNJEnYEnKEnNGGErNnGEpNnMEnNEoYEoGnLENGTHENEReCOMMAeFULL STOPeQUESTION MARKe",
    "SYLLABLE NDOLE FAtKAtSOOgMBOL FEENGlKEENGlTINGlNIIlBANGlFAAlTAAlDANGmOONGlKUNGlTONGlDO-OlJON",
    "GeDIGIT ZEROkONEkTWOlHREEkFOURlIVEkSIXlEVENkEIGHTkNINEeSYLLABLE NDOLE MAtDO"]),
  (0xA640, ["aCYRILLIC CAPITAL LETTER ZEMLYAjSMALL LETTER ZEMLYAjCAPITAL LETTER DZELOjSMALL LETTE",
    "R DZELOjCAPITAL LETTER REVERSED DZEjSMALL LETTER REVERSED DZEjCAPITAL LETTER IOTAjSMALL LETT",
    "ER IOTAjCAPITAL LETTER DJERVjSMALL LETTER DJERVjCAPITAL LETTER MONOGRAPH UKjSMALL LETTER MON",
    "OGRAPH UKjCAPITAL LETTER BROAD OMEGAjSMALL LETTER BROAD OMEGAjCAPITAL LETTER NEUTRAL YERjSMA",
    "LL LETTER NEUTRAL YERjCAPITAL LETTER YERU WITH BACK YERjSMALL LETTER YERU WITH BACK YERjCAPI",
    "TAL LETTER IOTIFIED YATjSMALL LETTER IOTIFIED YATjCAPITAL LETTER REVERSED YUjSMALL LETTER RE",
    "VERSED YUjCAPITAL LETTER IOTIFIED AjSMALL LETTER IOTIFIED AjCAPITAL LETTER CLOSED LITTLE YUS",
    "jSMALL LETTER CLOSED LITTLE YUSjCAPITAL LETTER BLENDED YUSjSMALL LETTER BLENDED YUSjCAPITAL ",
    "LETTER IOTIFIED CLOSED LITTLE YUSjSMALL LETTER IOTIFIED CLOSED LITTLE YUSjCAPITAL LETTER YNj",
    "SMALL LETTER YNjCAPITAL LETTER REVERSED TSEjSMALL LETTER REVERSED TSEjCAPITAL LETTER SOFT DE",
    "jSMALL LETTER SOFT DEjCAPITAL LETTER SOFT ELjSMALL LETTER SOFT ELjCAPITAL LETTER SOFT EMjSMA",
    "LL LETTER SOFT EMjCAPITAL LETTER MONOCULAR OjSMALL LETTER MONOCULAR OjCAPITAL LETTER BINOCUL",
    "AR OjSMALL LETTER BINOCULAR OjCAPITAL LETTER DOUBLE MONOCULAR OjSMALL LETTER DOUBLE MONOCULA",
    "R OjLETTER MULTIOCULAR ObOMBINING CYRILLIC VZMETtTEN MILLIONS SIGNtHUNDRED MILLIONS SIGNtTHO",
    "USAND MILLIONS SIGNaSLAVONIC ASTERISKaCOMBINING CYRILLIC LETTER UKRAINIAN IEzbIzbYIzbUzbHARD",
    " SIGNzbYERUzbSOFT SIGNzbOMEGAtKAVYKAtPAYEROKbYRILLIC KAVYKAjPAYEROKjCAPITAL LETTER DWEjSMALL",
    " LETTER DWEjCAPITAL LETTER DZWEjSMALL LETTER DZWEjCAPITAL LETTER ZHWEjSMALL LETTER ZHWEjCAPI",
    "TAL LETTER CCHEjSMALL LETTER CCHEjCAPITAL LETTER DZZEjSMALL LETTER DZZEjCAPITAL LETTER TE WI",
    "TH MIDDLE HOOKjSMALL LETTER TE WITH MIDDLE HOOKjCAPITAL LETTER TWEjSMALL LETTER TWEjCAPITAL ",
    "LETTER TSWEjSMALL LETTER TSWEjCAPITAL LETTER TSSEjSMALL LETTER TSSEjCAPITAL LETTER TCHEjSMAL",
    "L LETTER TCHEjCAPITAL LETTER HWEjSMALL LETTER HWEjCAPITAL LETTER SHWEjSMALL LETTER SHWEjCAPI",
    "TAL LETTER DOUBLE OjSMALL LETTER DOUBLE OjCAPITAL LETTER CROSSED OjSMALL LETTER CROSSED OaMO",
    "DIFIER LETTER CYRILLIC HARD SIGNzaSOFT SIGNaCOMBINING CYRILLIC LETTER EFzbIOTIFIED EaBAMUM L",
    "ETTER AnKAnUnKUnEEnREEnTAEnOnNYInInLAnPAnRIIpEEnLEEEEnMEEEEnTAAnNDAAoJAEMnMnSUUnMUnSHIIoIoHE",
    "UXoEUXnKYEEoETnNUAEpoJUAEnYOQnSHUnYUQoAnNSHAnKEUXnPEUXnNJEEoTEEnPUEnWUEnPEEnFEEnRUnLUnMInNIn",
    "REUXoAEnKENnNGKWAENpGApAnSHOnPUAEnFUoOMnWAnNAnLInPInLOQnKOnMBENnRENnMENoAnTInKInMOoBAAnTETnK",
    "PAnTENnNTUUnSAMBAnFAAMAEnKOVUUpGHOMgCOMBINING MARK KOQNDONvTUKWENTISgNJAEMLIgFULL STOPgCOLON",
    "iMMAgSEMICOLONgQUESTION MARK........aMODIFIER LETTER CHINESE TONE YIN PINGzfANG PINGzfIN SHA",
    "NGzfANG SHANGzfIN QUzfANG QUzfIN RUzfANG RUqEXTRA-HIGH DOTTED TONE BARqHIGH DOTTED TONE BARq",
    "MID DOTTED TONE BARqLOW DOTTED TONE BARqEXTRA-LOW DOTTED TONE BARwHIGH DOTTED LEFT-STEM TONE",
    " BARqHIGH DOTTED LEFT-STEM TONE BARqMID DOTTED LEFT-STEM TONE BARqLOW DOTTED LEFT-STEM TONE ",
    "BARqEXTRA-LOW DOTTED LEFT-STEM TONE BARwHIGH LEFT-STEM TONE BARqHIGH LEFT-STEM TONE BARqMID ",
    "LEFT-STEM TONE BARqLOW LEFT-STEM TONE BARqEXTRA-LOW LEFT-STEM TONE BARqDOT VERTICAL BARuSLAS",
    "HuHORIZONTAL BARqLOWER RIGHT CORNER ANGLEqRAISED UP ARROWxDOWN ARROWxEXCLAMATION MARKxINVERT",
    "ED EXCLAMATION MARKqLOW INVERTED EXCLAMATION MARKqSTRESS AND HIGH TONEzcLOW TONEaLATIN CAPIT",
    "AL LETTER EGYPTOLOGICAL ALEFgSMALL LETTER EGYPTOLOGICAL ALEFgCAPITAL LETTER EGYPTOLOGICAL AI",
    "NgSMALL LETTER EGYPTOLOGICAL AINgCAPITAL LETTER HENGgSMALL LETTER HENGgCAPITAL LETTER TZgSMA",
    "LL LETTER TZgCAPITAL LETTER TRESILLOgSMALL LETTER TRESILLOgCAPITAL LETTER CUATRILLOgSMALL LE",
    "TTER CUATRILLOgCAPITAL LETTER CUATRILLO WITH COMMAgSMALL LETTER CUATRILLO WITH COMMAgLETTER ",
    "SMALL CAPITAL FzcSgCAPITAL LETTER AAgSMALL LETTER AAgCAPITAL LETTER AOgSMALL LETTER AOgCAPIT",
    "AL LETTER AUgSMALL LETTER AUgCAPITAL LETTER AVgSMALL LETTER AVgCAPITAL LETTER AV WITH HORIZO",
    "NTAL BARgSMALL LETTER AV WITH HORIZONTAL BARgCAPITAL LETTER AYgSMALL LETTER AYgCAPITAL LETTE",
    "R REVERSED C WITH DOTgSMALL LETTER REVERSED C WITH DOTgCAPITAL LETTER K WITH STROKEgSMALL LE",
    "TTER K WITH STROKEgCAPITAL LETTER K WITH DIAGONAL STROKEgSMALL LETTER K WITH DIAGONAL STROKE",
    "gCAPITAL LETTER K WITH STROKE AND DIAGONAL STROKEgSMALL LETTER K WITH STROKE AND DIAGONAL ST",
    "ROKEgCAPITAL LETTER BROKEN LgSMALL LETTER BROKEN LgCAPITAL LETTER L WITH HIGH STROKEgSMALL L",
    "ETTER L WITH HIGH STROKEgCAPITAL LETTER O WITH LONG STROKE OVERLAYgSMALL LETTER O WITH LONG ",
    "STROKE OVERLAYgCAPITAL LETTER O WITH LOOPgSMALL LETTER O WITH LOOPgCAPITAL LETTER OOgSMALL L",
    "ETTER OOgCAPITAL LETTER P WITH STROKE THROUGH DESCENDERgSMALL LETTER P WITH STROKE THROUGH D",
    "ESCENDERgCAPITAL LETTER P WITH FLOURISHgSMALL LETTER P WITH FLOURISHgCAPITAL LETTER P WITH S",
    "QUIRREL TAILgSMALL LETTER P WITH SQUIRREL TAILgCAPITAL LETTER Q WITH STROKE THROUGH DESCENDE",
    "RgSMALL LETTER Q WITH STROKE THROUGH DESCENDERgCAPITAL LETTER Q WITH DIAGONAL STROKEgSMALL L",
    "ETTER Q WITH DIAGONAL STROKEgCAPITAL LETTER R ROTUNDAgSMALL LETTER R ROTUNDAgCAPITAL LETTER ",
    "RUM ROTUNDAgSMALL LETTER RUM ROTUNDAgCAPITAL LETTER V WITH DIAGONAL STROKEgSMALL LETTER V WI",
    "TH DIAGONAL STROKEgCAPITAL LETTER VYgSMALL LETTER VYgCAPITAL LETTER VISIGOTHIC ZgSMALL LETTE",
    "R VISIGOTHIC ZgCAPITAL LETTER THORN WITH STROKEgSMALL LETTER THORN WITH STROKEgCAPITAL LETTE",
    "R THORN WITH STROKE THROUGH DESCENDERgSMALL LETTER THORN WITH STROKE THROUGH DESCENDERgCAPIT",
    "AL LETTER VENDgSMALL LETTER VENDgCAPITAL LETTER ETgSMALL LETTER ETgCAPITAL LETTER ISgSMALL L",
    "ETTER ISgCAPITAL LETTER CONgSMALL LETTER CONaMODIFIER LETTER USaLATIN SMALL LETTER DUMtLUMtM",
    "UMtNUMtRUMgLETTER SMALL CAPITAL RUMgSMALL LETTER TUMtUMgCAPITAL LETTER INSULAR DgSMALL LETTE",
    "R INSULAR DgCAPITAL LETTER INSULAR FgSMALL LETTER INSULAR FgCAPITAL LETTER INSULAR GvTURNED ",
    "INSULAR GgSMALL LETTER TURNED INSULAR GgCAPITAL LETTER TURNED LgSMALL LETTER TURNED LgCAPITA",
    "L LETTER INSULAR RgSMALL LETTER INSULAR RgCAPITAL LETTER INSULAR SgSMALL LETTER INSULAR SgCA",
    "PITAL LETTER INSULAR TgSMALL LETTER INSULAR TaMODIFIER LETTER LOW CIRCUMFLEX ACCENTqCOLONqSH",
    "ORT EQUALS SIGNaLATIN CAPITAL LETTER SALTILLOgSMALL LETTER SALTILLOgCAPITAL LETTER TURNED Hg",
    "SMALL LETTER L WITH RETROFLEX HOOK AND BELTgLETTER SINOLOGICAL DOTgCAPITAL LETTER N WITH DES",
    "CENDERgSMALL LETTER N WITH DESCENDERgCAPITAL LETTER C WITH BARgSMALL LETTER C WITH BARzbPALA",
    "TAL HOOKtH WITH PALATAL HOOKgCAPITAL LETTER B WITH FLOURISHgSMALL LETTER B WITH FLOURISHgCAP",
    "ITAL LETTER F WITH STROKEgSMALL LETTER F WITH STROKEgCAPITAL LETTER VOLAPUK AEgSMALL LETTER ",
    "VOLAPUK AEgCAPITAL LETTER VOLAPUK OEgSMALL LETTER VOLAPUK OEgCAPITAL LETTER VOLAPUK UEgSMALL",
    " LETTER VOLAPUK UEgCAPITAL LETTER G WITH OBLIQUE STROKEgSMALL LETTER G WITH OBLIQUE STROKEgC",
    "APITAL LETTER K WITH OBLIQUE STROKEgSMALL LETTER K WITH OBLIQUE STROKEgCAPITAL LETTER N WITH",
    " OBLIQUE STROKEgSMALL LETTER N WITH OBLIQUE STROKEgCAPITAL LETTER R WITH OBLIQUE STROKEgSMAL",
    "L LETTER R WITH OBLIQUE STROKEgCAPITAL LETTER S WITH OBLIQUE STROKEgSMALL LETTER S WITH OBLI",
    "QUE STROKEgCAPITAL LETTER H WITH HOOKvREVERSED OPEN EvSCRIPT GvL WITH BELTvSMALL CAPITAL IgL",
    "ETTER SMALL CAPITAL QgCAPITAL LETTER TURNED KzdTvJ WITH CROSSED-TAILvCHIvBETAgSMALL LETTER B",
    "ETAgCAPITAL LETTER OMEGAgSMALL LETTER OMEGAgCAPITAL LETTER U WITH STROKEgSMALL LETTER U WITH",
    " STROKEgCAPITAL LETTER GLOTTAL AgSMALL LETTER GLOTTAL AgCAPITAL LETTER GLOTTAL IgSMALL LETTE",
    "R GLOTTAL IgCAPITAL LETTER GLOTTAL UgSMALL LETTER GLOTTAL UgCAPITAL LETTER OLD POLISH OgSMAL",
    "L LETTER OLD POLISH OgCAPITAL LETTER ANGLICANA WgSMALL LETTER ANGLICANA WgCAPITAL LETTER C W",
    "ITH PALATAL HOOKvS WITH HOOKvZ WITH PALATAL HOOKvD WITH SHORT STROKE OVERLAYgSMALL LETTER D ",
    "WITH SHORT STROKE OVERLAYgCAPITAL LETTER S WITH SHORT STROKE OVERLAYgSMALL LETTER S WITH SHO",
    "RT STROKE OVERLAY.....gCAPITAL LETTER CLOSED INSULAR GgSMALL LETTER CLOSED INSULAR G.tDOUBLE",
    " THORN.zbWYNNgCAPITAL LETTER MIDDLE SCOTS SgSMALL LETTER MIDDLE SCOTS SgCAPITAL LETTER SIGMO",
    "ID SgSMALL LETTER SIGMOID S"]),
  (0xA7F2, ["aMODIFIER LETTER CAPITAL CyFyQaLATIN CAPITAL LETTER REVERSED HALF HgSMALL LETTER REV",
    "ERSED HALF HgEPIGRAPHIC LETTER SIDEWAYS IaMODIFIER LETTER CAPITAL H WITH STROKEqSMALL LIGATU",
    "RE OEaLATIN LETTER SMALL CAPITAL TURNED MgEPIGRAPHIC LETTER REVERSED FziPyINVERTED Mza LONGA",
    "yARCHAIC MaSYLOTI NAGRI LETTER AuInSIGN DVISVARAnLETTER UuEuOnSIGN HASANTAnLETTER KOvHOuGOvH",
    "OnSIGN ANUSVARAnLETTER COvHOuJOvHOuTTOwHOuDDOwHOuTOvHOuDOvHOuNOuPOvHOuBOvHOuMOuROuLOuRROuSOu",
    "HOnVOWEL SIGN AyIyUyEyOOnPOETRY MARK-1za2za3za4nSIGN ALTERNATE HASANTA...aNORTH INDIC FRACTI",
    "ON ONE QUARTERzaHALFvTHREE QUARTERSvONE SIXTEENTHzaEIGHTHvTHREE SIXTEENTHSmQUARTER MARKmPLAC",
    "EHOLDER MARKmRUPEE MARKmQUANTITY MARK......aPHAGS-PA LETTER KArHAqGAqNGAqCArHAqJAqNYAqTArHAq",
    "DAqNAqPArHAqBAqMAqTSAsHAqDZAqWAqZHArAqSMALL AqYAqRAqLAqSHArAqHAqAqIqUqEqOqQAqXAqFAqGGAqEEjSU",
    "BJOINED LETTER WAzbYAjLETTER TTAsHAqDDAqNNAqALTERNATE YAqVOICELESS SHAvD HAqASPIRATED FAjSUB",
    "JOINED LETTER RAlPERFIXED LETTER RAjLETTER CANDRABINDUjSINGLE HEAD MARKjDOUBLE HEAD MARKjMAR",
    "K SHADoDOUBLE SHAD........aSAURASHTRA SIGN ANUSVARAqVISARGAlLETTER AtAsItIsUtUsVOCALIC RzcRz",
    "bLzcLsEtEsAIsOtOsAUsKAtHAsGAtHAsNGAsCAtHAsJAtHAsNYAsTTAuHAsDDAuHAsNNAsTAtHAsDAtHAsNAsPAtHAsB",
    "AtHAsMAsYAsRAsLAsVAsSHAtSAtAsHAsLLAlCONSONANT SIGN HAARUlVOWEL SIGN AAwIxIwUxUwVOCALIC RzgRz",
    "fLzgLwExEwAIwOxOwAUlSIGN VIRAMAqCANDRABINDU........lDANDAmOUBLE DANDAmIGIT ZEROrONErTWOsHREE",
    "rFOURsIVErSIXsEVENrEIGHTrNINE......aCOMBINING DEVANAGARI DIGIT ZEROzcONEzcTWOzdHREEzcFOURzdI",
    "VEzcSIXzdEVENzcEIGHTzcNINEvLETTER AzdUzdKAzdNAzdPAzdRAzdVIvSIGN AVAGRAHAaDEVANAGARI SIGN SPA",
    "CING CANDRABINDUqCANDRABINDU VIRAMAqDOUBLE CANDRABINDU VIRAMAqCANDRABINDU TWOzeHREEzdAVAGRAH",
    "AqPUSHPIKAlGAP FILLERlCARETlHEADSTROKElSIGN SIDDHAMlJAIN OMlLETTER AYlVOWEL SIGN AYaKAYAH LI",
    " DIGIT ZEROpONEpTWOqHREEpFOURqIVEpSIXqEVENpEIGHTpNINEjLETTER KArHAqGAqNGAqSArHAqZAqNYAqTAqHT",
    "AqNAqPArHAqMAqDAqBAqRAqYAqLAqWAqTHAqHAqVAqCAqAqOEqIqOOjVOWEL UEpEpUpEEpOjTONE PLOPHUoCALYAt ",
    "PLOPHUjSIGN CWIoSHYAaREJANG LETTER KAoGAoNGAoTAoDAoNAoPAoBAoMAoCAoJAoNYAoSAoRAoLAoYAoWAoHAoM",
    "BAoNGGApDApYJAoAhVOWEL SIGN IsUsEsAIsOsAUsEUtAhCONSONANT SIGN NGxwRwHhVIRAMA...........hSECT",
    "ION MARKaHANGUL CHOSEONG TIKEUT-MIEUMxPIEUPxSIOSxCIEUCqRIEUL-KIYEOKwSSANGKIYEOKwTIKEUTwSSANG",
    "TIKEUTwMIEUMwPIEUPwSSANGPIEUPwKAPYEOUNPIEUPwSIOSwCIEUCwKHIEUKHqMIEUM-KIYEOKwTIKEUTwSIOSqPIEU",
    "P-SIOS-THIEUTHwKHIEUKHwHIEUHqSSANGSIOS-PIEUPqIEUNG-RIEULwHIEUHqSSANGCIEUC-HIEUHvTHIEUTHqPHIE",
    "UPH-HIEUHqHIEUH-SIOSqSSANGYEORINHIEUH...aJAVANESE SIGN PANYANGGAoCECAKoLAYARoWIGNYANjLETTER ",
    "AqI KAWIrrIqUqPA CEREKqNGA LELETza RASWADIqEqAIqOqKAs SASAKtMURDAqGAs MURDAqNGAqCAs MURDAqJA",
    "qNYA MURDAqJA MAHAPRANAqNYAqTTAt MAHAPRANAqDDAt MAHAPRANAqNA MURDAqTAs MURDAqDAs MAHAPRANAqN",
    "AqPAs MURDAqBAs MURDAqMAqYAqRAs AGUNGqLAqWAqSA MURDAuAHAPRANAsqHAjSIGN CECAK TELUjVOWEL SIGN",
    " TARUNGvOLONGuWULUy MELIKuSUKUy MENDUTuTALINGuDIRGA MUREuPEPETjCONSONANT SIGN KERETyPENGKALy",
    "CAKRAjPANGKONjLEFT RERENGGANjRIGHT RERENGGANjPADA ANDAPoMADYAoLUHURoWINDUoPANGKAToLINGSApUNG",
    "SIoADEGs ADEGoPISELEHjTURNED PADA PISELEH.jPANGRANGKEPjDIGIT ZEROpONEpTWOqHREEpFOURqIVEpSIXq",
    "EVENpEIGHTpNINE....jPADA TIRTA TUMETESoISEN-ISENaMYANMAR LETTER SHAN GHAuCHAuJHAuNNAuBHAiSIG",
    "N SHAN SAWiMODIFIER LETTER SHAN REDUPLICATIONiLETTER TAI LAING NYAzaFAzaGAzbHAzaJAzbHAzaDDAz",
    "cHAzaNNAiTAI LAING DIGIT ZEROyONEyTWOzaHREEyFOURzaIVEySIXzaEVENyEIGHTyNINEiLETTER TAI LAING ",
    "LLAzaDAzbHAzaBAzbHA.aCHAM LETTER AmImUmEmAImOmKAnHAmGAnHAmNGUEoAmCHAoHAmJAnHAmNHUEoAoJAmTAnH",
    "AmDAnHAmNUEnAmDDAmPAnPAnHAmBAnHAmMUEnAmBBAmYAmRAmLAmVAmSSAnAmHAfVOWEL SIGN AAqIrIqEIqUqOErqA",
    "IrUqUEfCONSONANT SIGN YAuRAuLAuWA.........fLETTER FINAL KsGsNGfCONSONANT SIGN FINAL NGfLETTE",
    "R FINAL CHsTsNsPsYsRsLsSSfCONSONANT SIGN FINAL MzbH..fDIGIT ZEROlONElTWOmHREElFOURmIVElSIXmE",
    "VENlEIGHTlNINE..fPUNCTUATION SPIRALrDANDAsOUBLE DANDArTRIPLE DANDAaMYANMAR LETTER KHAMTI GAw",
    "CAxHAwJAxHAwNYAwTTAyHAwDDAyHAxHAwNAwSAwHAxHAwFAiMODIFIER LETTER KHAMTI REDUPLICATIONiLETTER ",
    "KHAMTI XAwZAwRAjOGOGRAM KHAMTI OAYyQNyHMiSYMBOL AITON EXCLAMATIONvONEvTWOiLETTER AITON RAiSI",
    "GN PAO KAREN TONEnTAI LAING TONE-2zd5iLETTER SHWE PALAUNG CHAzdSHAaTAI VIET LETTER LOW KOqHI",
    "GH KOqLOW KHOqHIGH KHOqLOW KHHOqHIGH KHHOqLOW GOqHIGH GOqLOW NGOqHIGH NGOqLOW COqHIGH COqLOW",
    " CHOqHIGH CHOqLOW SOqHIGH SOqLOW NYOqHIGH NYOqLOW DOqHIGH DOqLOW TOqHIGH TOqLOW THOqHIGH THO",
    "qLOW NOqHIGH NOqLOW BOqHIGH BOqLOW POqHIGH POqLOW PHOqHIGH PHOqLOW FOqHIGH FOqLOW MOqHIGH MO",
    "qLOW YOqHIGH YOqLOW ROqHIGH ROqLOW LOqHIGH LOqLOW VOqHIGH VOqLOW HOqHIGH HOqLOW OqHIGH OjMAI",
    " KANGjVOWEL AApIpUEqpEpOjMAI KHITjVOWEL IApUEAqApAUEqYqNqMjTONE MAI EKsNUENGsTHOsSONG"]),
  (0xAADB, ["aTAI VIET SYMBOL KONqNUENGqSAMqHO HOIqKOI KOIaMEETEI MAYEK LETTER EuOuCHAuNYAuTTAwHA",
    "uDDAwHAuNNAuSHAvSAnVOWEL SIGN IIyUUyAAIzaUzaAUnCHEIKHANnAHANG KHUDAMoNJInSYLLABLE REPETITION",
    " MARKnWORD REPETITION MARKnVOWEL SIGN VISARGAoIRAMA..........aETHIOPIC SYLLABLE TTHUvIvAAvEE",
    "wvO..sDDHUvIvAAvEEwvO..tZUuIuAAuEEvuO.........sCCHHAwUwIwAAwEExwO.sBBAuUuIuAAuEEvuO.aLATIN S",
    "MALL LETTER BARRED ALPHAtA REVERSED-SCHWAtBLACKLETTER EuARRED EtE WITH FLOURISHtLENIS FtSCRI",
    "PT G WITH CROSSED-TAILtL WITH INVERTED LAZY SzbDOUBLE MIDDLE TILDEzbMIDDLE RINGtM WITH CROSS",
    "ED-TAILtN WITH CROSSED-TAILtENG WITH CROSSED-TAILtBLACKLETTER Ozh WITH STROKEtOPEN O WITH ST",
    "ROKEtINVERTED OEtTURNED OE WITH STROKEzjHORIZONTAL STROKEzc OPEN-Ozj WITH STROKEtSTIRRUP RgL",
    "ETTER SMALL CAPITAL R WITH RIGHT LEGgSMALL LETTER R WITHOUT HANDLEtDOUBLE RtR WITH CROSSED-T",
    "AILtDOUBLE R WITH CROSSED-TAILtSCRIPT Rzc WITH RINGtBASELINE ESHtU WITH SHORT RIGHT LEGvBAR ",
    "WITH SHORT RIGHT LEGuItTURNED UItU WITH LEFT HOOKtCHIw WITH LOW RIGHT RINGzhLEFT SERIFtX WIT",
    "H LOW RIGHT RINGzdNG LEFT LEGzo AND LOW RIGHT RINGzpWITH SERIFtY WITH SHORT RIGHT LEGaMODIFI",
    "ER BREVE WITH INVERTED BREVEjLETTER SMALL HENGwL WITH INVERTED LAZY SzeMIDDLE TILDEwU WITH L",
    "EFT HOOKaLATIN SMALL LETTER SAKHA YATtIOTIFIED EtOPEN OEtUOtINVERTED ALPHAaGREEK LETTER SMAL",
    "L CAPITAL OMEGAaLATIN SMALL LETTER DZ DIGRAPH WITH RETROFLEX HOOKtTS DIGRAPH WITH RETROFLEX ",
    "HOOKuURNED R WITH MIDDLE TILDEaMODIFIER LETTER SMALL TURNED WqLEFT TACKqRIGHT TACK....aCHERO",
    "KEE SMALL LETTER AwEwIwOwUwVwGAwKAwGExIxOxUxVwHAxExIxOxUxVwLAxExIxOxUxVwMAxExIxOxUwNAwHNAwNA",
    "HxExIxOxUxVwQUAyEyIyOyUyVwSAxxExIxOxUxVwDAwTAwDEwTEwDIwTIwDOxUxVxLAwTLAyEyIyOyUyVxSAyEyIyOyU",
    "yVwWAxExIxOxUxVwYAaMEETEI MAYEK LETTER KOKuSAMuLAIuMITuPAuNAuCHILuTILuKHOUuNGOUuTHOUuWAIuYAN",
    "GuHUKuUNuIuPHAMuATIYAuGOKuJHAMuRAIuBAuJILuDILuGHOUuDHOUuBHAMuKOK LONSUMuLAI LONSUMuMIT LONSU",
    "MuPA LONSUMuNA LONSUMuTIL LONSUMuNGOU LONSUMuI LONSUMnVOWEL SIGN ONAPyINAPyANAPyYENAPySOUNAP",
    "yUNAPyCHEINAPyNUNGnCHEIKHEInLUM IYEKnAPUN IYEK..nDIGIT ZEROtONEtTWOuHREEtFOURuIVEtSIXuEVENtE",
    "IGHTtNINE"]),
  (0xD7B0, ["aHANGUL JUNGSEONG O-YEOtO-IrYO-AvEuEOrU-YEOtI-IrYU-AEuOrEU-AuEOvuOrI-YA-OvEuEOvtO-It",
    "YOuUtIrARAEA-AxE....iONGSEONG NIEUN-RIEULxCHIEUCHrSSANGTIKEUTzd-PIEUPrTIKEUT-PIEUPySIOSzd-KI",
    "YEOKyCIEUCzaHIEUCHyTHIEUTHrRIEUL-SSANGKIYEOKxKIYEOK-HIEUHrSSANGRIEUL-KHIEUKHrRIEUL-MIEUM-HIE",
    "UHxPIEUP-TIKEUTzePHIEUPHxYESIEUNGzaORINHIEUH-HIEUHrKAPYEOUNRIEULrMIEUM-NIEUNxSSANGNIEUNrSSAN",
    "GMIEUMrMIEUM-PIEUP-SIOSxCIEUCrPIEUP-TIKEUTxRIEUL-PHIEUPHxMIEUMrSSANGPIEUPrPIEUP-SIOS-TIKEUTx",
    "CIEUCyHIEUCHrSIOS-MIEUMwKAPYEOUNPIEUPsSANGSIOS-KIYEOKzcTIKEUTsIOS-PANSIOSwCIEUCxHIEUCHwTHIEU",
    "THwHIEUHrPANSIOS-PIEUPzaKAPYEOUNPIEUPrYESIEUNG-MIEUMzbHIEUHrCIEUC-PIEUPxSSANGPIEUPrSSANGCIEU",
    "CrPHIEUPH-SIOSzaTHIEUTH"]),
  (0xFB00, ["aLATIN SMALL LIGATURE FFwIwLwFIxLvLONG S TvST............aARMENIAN SMALL LIGATURE ME",
    "N NOWzdECHzdINIyVEW NOWyMEN XEH.....aHEBREW LETTER YOD WITH HIRIQhPOINT JUDEO-SPANISH VARIKA",
    "hLIGATURE YIDDISH YOD YOD PATAHiETTER ALTERNATIVE AYINoWIDE ALEFtDALETtHEtKAFtLAMEDtFINAL ME",
    "MtRESHtTAVoALTERNATIVE PLUS SIGNoSHIN WITH SHIN DOTzaIN DOTyDAGESH AND SHIN DOTzlIN DOToALEF",
    " WITH PATAHyQAMATSyMAPIQoBET WITH DAGESHoGIMEL WITH DAGESHoDALET WITH DAGESHoHE WITH MAPIQoV",
    "AV WITH DAGESHoZAYIN WITH DAGESH.oTET WITH DAGESHoYOD WITH DAGESHoFINAL KAF WITH DAGESHoKAF ",
    "WITH DAGESHoLAMED WITH DAGESH.oMEM WITH DAGESH.oNUN WITH DAGESHoSAMEKH WITH DAGESH.oFINAL PE",
    " WITH DAGESHoPE WITH DAGESH.oTSADI WITH DAGESHoQOF WITH DAGESHoRESH WITH DAGESHoSHIN WITH DA",
    "GESHoTAV WITH DAGESHoVAV WITH HOLAMoBET WITH RAFEoKAF WITH RAFEoPE WITH RAFEiIGATURE ALEF LA",
    "MEDaARABIC LETTER ALEF WASLA ISOLATED FORMzaFINAL FORMoBEEH ISOLATED FORMtFINAL FORMtINITIAL",
    " FORMtMEDIAL FORMoPEH ISOLATED FORMsFINAL FORMsINITIAL FORMsMEDIAL FORMoBEHEH ISOLATED FORMu",
    "FINAL FORMuINITIAL FORMuMEDIAL FORMoTTEHEH ISOLATED FORMvFINAL FORMvINITIAL FORMvMEDIAL FORM",
    "pEHEH ISOLATED FORMuFINAL FORMuINITIAL FORMuMEDIAL FORMpTEH ISOLATED FORMtFINAL FORMtINITIAL",
    " FORMtMEDIAL FORMoVEH ISOLATED FORMsFINAL FORMsINITIAL FORMsMEDIAL FORMoPEHEH ISOLATED FORMu",
    "FINAL FORMuINITIAL FORMuMEDIAL FORMoDYEH ISOLATED FORMtFINAL FORMtINITIAL FORMtMEDIAL FORMoN",
    "YEH ISOLATED FORMtFINAL FORMtINITIAL FORMtMEDIAL FORMoTCHEH ISOLATED FORMuFINAL FORMuINITIAL",
    " FORMuMEDIAL FORMtEH ISOLATED FORMwFINAL FORMwINITIAL FORMwMEDIAL FORMoDDAHAL ISOLATED FORMv",
    "FINAL FORMpAHAL ISOLATED FORMuFINAL FORMpUL ISOLATED FORMsFINAL FORMpDAL ISOLATED FORMtFINAL",
    " FORMoJEH ISOLATED FORMsFINAL FORMoRREH ISOLATED FORMtFINAL FORMoKEHEH ISOLATED FORMuFINAL F",
    "ORMuINITIAL FORMuMEDIAL FORMoGAF ISOLATED FORMsFINAL FORMsINITIAL FORMsMEDIAL FORMpUEH ISOLA",
    "TED FORMtFINAL FORMtINITIAL FORMtMEDIAL FORMoNGOEH ISOLATED FORMuFINAL FORMuINITIAL FORMuMED",
    "IAL FORMpOON GHUNNA ISOLATED FORMzbFINAL FORMoRNOON ISOLATED FORMuFINAL FORMuINITIAL FORMuME",
    "DIAL FORMoHEH WITH YEH ABOVE ISOLATED FORMziFINAL FORMsGOAL ISOLATED FORMxFINAL FORMxINITIAL",
    " FORMxMEDIAL FORMsDOACHASHMEE ISOLATED FORMzfFINAL FORMzfINITIAL FORMzfMEDIAL FORMoYEH BARRE",
    "E ISOLATED FORMzaFINAL FORMzaWITH HAMZA ABOVE ISOLATED FORMzrFINAL FORMhSYMBOL DOT ABOVEsBEL",
    "OWoTWO DOTS ABOVExBELOWpHREE DOTS ABOVEzaBELOWzaPOINTING DOWNWARDS ABOVEztBELOWoFOUR DOTS AB",
    "OVEyBELOWoDOUBLE VERTICAL BAR BELOWoTWO DOTS VERTICALLY ABOVEzjBELOWoRINGoSMALL TAH ABOVEyBE",
    "LOWoWASLA ABOVE"]),
  (0xFBD3, ["aARABIC LETTER NG ISOLATED FORMrFINAL FORMrINITIAL FORMrMEDIAL FORMoU ISOLATED FORMq",
    "FINAL FORMoOE ISOLATED FORMrFINAL FORMoYU ISOLATED FORMrFINAL FORMoU WITH HAMZA ABOVE ISOLAT",
    "ED FORMoVE ISOLATED FORMrFINAL FORMoKIRGHIZ OE ISOLATED FORMzaFINAL FORMwYU ISOLATED FORMzaF",
    "INAL FORMoE ISOLATED FORMqFINAL FORMqINITIAL FORMqMEDIAL FORMoUIGHUR KAZAKH KIRGHIZ ALEF MAK",
    "SURA INITIAL FORMzyMEDIAL FORMiIGATURE YEH WITH HAMZA ABOVE WITH ALEF ISOLATED FORMzwFINAL F",
    "ORMzsE ISOLATED FORMzuFINAL FORMzrWAW ISOLATED FORMzvFINAL FORMzrU ISOLATED FORMztFINAL FORM",
    "zrOE ISOLATED FORMzuFINAL FORMzrYU ISOLATED FORMzuFINAL FORMzrE ISOLATED FORMztFINAL FORMztI",
    "NITIAL FORMqUIGHUR KIRGHIZ YEH WITH HAMZA ABOVE WITH ALEF MAKSURA ISOLATED FORMzzuFINAL FORM",
    "zzuINITIAL FORMiETTER FARSI YEH ISOLATED FORMyFINAL FORMyINITIAL FORMyMEDIAL FORMiIGATURE YE",
    "H WITH HAMZA ABOVE WITH JEEM ISOLATED FORMzrHAH ISOLATED FORMzrMEEM ISOLATED FORMzrALEF MAKS",
    "URA ISOLATED FORMzrYEH ISOLATED FORMqBEH WITH JEEM ISOLATED FORMzaHAH ISOLATED FORMzaKHAH IS",
    "OLATED FORMzaMEEM ISOLATED FORMzaALEF MAKSURA ISOLATED FORMzaYEH ISOLATED FORMqTEH WITH JEEM",
    " ISOLATED FORMzaHAH ISOLATED FORMzaKHAH ISOLATED FORMzaMEEM ISOLATED FORMzaALEF MAKSURA ISOL",
    "ATED FORMzaYEH ISOLATED FORMrHEH WITH JEEM ISOLATED FORMzbMEEM ISOLATED FORMzbALEF MAKSURA I",
    "SOLATED FORMzbYEH ISOLATED FORMqJEEM WITH HAH ISOLATED FORMzbMEEM ISOLATED FORMqHAH WITH JEE",
    "M ISOLATED FORMzaMEEM ISOLATED FORMqKHAH WITH JEEM ISOLATED FORMzbHAH ISOLATED FORMzbMEEM IS",
    "OLATED FORMqSEEN WITH JEEM ISOLATED FORMzbHAH ISOLATED FORMzbKHAH ISOLATED FORMzbMEEM ISOLAT",
    "ED FORMrAD WITH HAH ISOLATED FORMzaMEEM ISOLATED FORMqDAD WITH JEEM ISOLATED FORMzaHAH ISOLA",
    "TED FORMzaKHAH ISOLATED FORMzaMEEM ISOLATED FORMqTAH WITH HAH ISOLATED FORMzaMEEM ISOLATED F",
    "ORMqZAH WITH MEEM ISOLATED FORMqAIN WITH JEEM ISOLATED FORMzaMEEM ISOLATED FORMqGHAIN WITH J",
    "EEM ISOLATED FORMzcMEEM ISOLATED FORMqFEH WITH JEEM ISOLATED FORMzaHAH ISOLATED FORMzaKHAH I",
    "SOLATED FORMzaMEEM ISOLATED FORMzaALEF MAKSURA ISOLATED FORMzaYEH ISOLATED FORMqQAF WITH HAH",
    " ISOLATED FORMzaMEEM ISOLATED FORMzaALEF MAKSURA ISOLATED FORMzaYEH ISOLATED FORMqKAF WITH A",
    "LEF ISOLATED FORMzaJEEM ISOLATED FORMzaHAH ISOLATED FORMzaKHAH ISOLATED FORMzaLAM ISOLATED F",
    "ORMzaMEEM ISOLATED FORMzaALEF MAKSURA ISOLATED FORMzaYEH ISOLATED FORMqLAM WITH JEEM ISOLATE",
    "D FORMzaHAH ISOLATED FORMzaKHAH ISOLATED FORMzaMEEM ISOLATED FORMzaALEF MAKSURA ISOLATED FOR",
    "MzaYEH ISOLATED FORMqMEEM WITH JEEM ISOLATED FORMzbHAH ISOLATED FORMzbKHAH ISOLATED FORMzbME",
    "EM ISOLATED FORMzbALEF MAKSURA ISOLATED FORMzbYEH ISOLATED FORMqNOON WITH JEEM ISOLATED FORM",
    "zbHAH ISOLATED FORMzbKHAH ISOLATED FORMzbMEEM ISOLATED FORMzbALEF MAKSURA ISOLATED FORMzbYEH",
    " ISOLATED FORMqHEH WITH JEEM ISOLATED FORMzaMEEM ISOLATED FORMzaALEF MAKSURA ISOLATED FORMza",
    "YEH ISOLATED FORMqYEH WITH JEEM ISOLATED FORMzaHAH ISOLATED FORMzaKHAH ISOLATED FORMzaMEEM I",
    "SOLATED FORMzaALEF MAKSURA ISOLATED FORMzaYEH ISOLATED FORMqTHAL WITH SUPERSCRIPT ALEF ISOLA",
    "TED FORMqREH WITH SUPERSCRIPT ALEF ISOLATED FORMqALEF MAKSURA WITH SUPERSCRIPT ALEF ISOLATED",
    " FORMqSHADDA WITH DAMMATAN ISOLATED FORMzdKASRATAN ISOLATED FORMzdFATHA ISOLATED FORMzdDAMMA",
    " ISOLATED FORMzdKASRA ISOLATED FORMzdSUPERSCRIPT ALEF ISOLATED FORMqYEH WITH HAMZA ABOVE WIT",
    "H REH FINAL FORMzrZAIN FINAL FORMzrMEEM FINAL FORMzrNOON FINAL FORMzrALEF MAKSURA FINAL FORM",
    "zrYEH FINAL FORMqBEH WITH REH FINAL FORMzaZAIN FINAL FORMzaMEEM FINAL FORMzaNOON FINAL FORMz",
    "aALEF MAKSURA FINAL FORMzaYEH FINAL FORMqTEH WITH REH FINAL FORMzaZAIN FINAL FORMzaMEEM FINA",
    "L FORMzaNOON FINAL FORMzaALEF MAKSURA FINAL FORMzaYEH FINAL FORMrHEH WITH REH FINAL FORMzbZA",
    "IN FINAL FORMzbMEEM FINAL FORMzbNOON FINAL FORMzbALEF MAKSURA FINAL FORMzbYEH FINAL FORMqFEH",
    " WITH ALEF MAKSURA FINAL FORMzaYEH FINAL FORMqQAF WITH ALEF MAKSURA FINAL FORMzaYEH FINAL FO",
    "RMqKAF WITH ALEF FINAL FORMzaLAM FINAL FORMzaMEEM FINAL FORMzaALEF MAKSURA FINAL FORMzaYEH F",
    "INAL FORMqLAM WITH MEEM FINAL FORMzaALEF MAKSURA FINAL FORMzaYEH FINAL FORMqMEEM WITH ALEF F",
    "INAL FORMzbMEEM FINAL FORMqNOON WITH REH FINAL FORMzbZAIN FINAL FORMzbMEEM FINAL FORMzbNOON ",
    "FINAL FORMzbALEF MAKSURA FINAL FORMzbYEH FINAL FORMqALEF MAKSURA WITH SUPERSCRIPT ALEF FINAL",
    " FORMqYEH WITH REH FINAL FORMzaZAIN FINAL FORMzaMEEM FINAL FORMzaNOON FINAL FORMzaALEF MAKSU",
    "RA FINAL FORMzaYEH FINAL FORMzaHAMZA ABOVE WITH JEEM INITIAL FORMzrHAH INITIAL FORMzrKHAH IN",
    "ITIAL FORMzrMEEM INITIAL FORMzrHEH INITIAL FORMqBEH WITH JEEM INITIAL FORMzaHAH INITIAL FORM",
    "zaKHAH INITIAL FORMzaMEEM INITIAL FORMzaHEH INITIAL FORMqTEH WITH JEEM INITIAL FORMzaHAH INI",
    "TIAL FORMzaKHAH INITIAL FORMzaMEEM INITIAL FORMzaHEH INITIAL FORMrHEH WITH MEEM INITIAL FORM",
    "qJEEM WITH HAH INITIAL FORMzbMEEM INITIAL FORMqHAH WITH JEEM INITIAL FORMzaMEEM INITIAL FORM",
    "qKHAH WITH JEEM INITIAL FORMzbMEEM INITIAL FORMqSEEN WITH JEEM INITIAL FORMzbHAH INITIAL FOR",
    "MzbKHAH INITIAL FORMzbMEEM INITIAL FORMrAD WITH HAH INITIAL FORMzaKHAH INITIAL FORMzaMEEM IN",
    "ITIAL FORMqDAD WITH JEEM INITIAL FORMzaHAH INITIAL FORMzaKHAH INITIAL FORMzaMEEM INITIAL FOR",
    "MqTAH WITH HAH INITIAL FORMqZAH WITH MEEM INITIAL FORMqAIN WITH JEEM INITIAL FORMzaMEEM INIT",
    "IAL FORMqGHAIN WITH JEEM INITIAL FORMzcMEEM INITIAL FORMqFEH WITH JEEM INITIAL FORMzaHAH INI",
    "TIAL FORMzaKHAH INITIAL FORMzaMEEM INITIAL FORMqQAF WITH HAH INITIAL FORMzaMEEM INITIAL FORM",
    "qKAF WITH JEEM INITIAL FORMzaHAH INITIAL FORMzaKHAH INITIAL FORMzaLAM INITIAL FORMzaMEEM INI",
    "TIAL FORMqLAM WITH JEEM INITIAL FORMzaHAH INITIAL FORMzaKHAH INITIAL FORMzaMEEM INITIAL FORM",
    "zaHEH INITIAL FORMqMEEM WITH JEEM INITIAL FORMzbHAH INITIAL FORMzbKHAH INITIAL FORMzbMEEM IN",
    "ITIAL FORMqNOON WITH JEEM INITIAL FORMzbHAH INITIAL FORMzbKHAH INITIAL FORMzbMEEM INITIAL FO",
    "RMzbHEH INITIAL FORMqHEH WITH JEEM INITIAL FORMzaMEEM INITIAL FORMzaSUPERSCRIPT ALEF INITIAL",
    " FORMqYEH WITH JEEM INITIAL FORMzaHAH INITIAL FORMzaKHAH INITIAL FORMzaMEEM INITIAL FORMzaHE",
    "H INITIAL FORMzbAMZA ABOVE WITH MEEM MEDIAL FORMzrHEH MEDIAL FORMqBEH WITH MEEM MEDIAL FORMz",
    "aHEH MEDIAL FORMqTEH WITH MEEM MEDIAL FORMzaHEH MEDIAL FORMrHEH WITH MEEM MEDIAL FORMzbHEH M",
    "EDIAL FORMqSEEN WITH MEEM MEDIAL FORMzbHEH MEDIAL FORMrHEEN WITH MEEM MEDIAL FORMzcHEH MEDIA",
    "L FORMqKAF WITH LAM MEDIAL FORMzaMEEM MEDIAL FORMqLAM WITH MEEM MEDIAL FORMqNOON WITH MEEM M",
    "EDIAL FORMzbHEH MEDIAL FORMqYEH WITH MEEM MEDIAL FORMzaHEH MEDIAL FORMqSHADDA WITH FATHA MED",
    "IAL FORMzdDAMMA MEDIAL FORMzdKASRA MEDIAL FORMqTAH WITH ALEF MAKSURA ISOLATED FORMzaYEH ISOL",
    "ATED FORMqAIN WITH ALEF MAKSURA ISOLATED FORMzaYEH ISOLATED FORMqGHAIN WITH ALEF MAKSURA ISO",
    "LATED FORMzcYEH ISOLATED FORMqSEEN WITH ALEF MAKSURA ISOLATED FORMzbYEH ISOLATED FORMrHEEN W",
    "ITH ALEF MAKSURA ISOLATED FORMzcYEH ISOLATED FORMqHAH WITH ALEF MAKSURA ISOLATED FORMzaYEH I",
    "SOLATED FORMqJEEM WITH ALEF MAKSURA ISOLATED FORMzbYEH ISOLATED FORMqKHAH WITH ALEF MAKSURA ",
    "ISOLATED FORMzbYEH ISOLATED FORMqSAD WITH ALEF MAKSURA ISOLATED FORMzaYEH ISOLATED FORMqDAD ",
    "WITH ALEF MAKSURA ISOLATED FORMzaYEH ISOLATED FORMqSHEEN WITH JEEM ISOLATED FORMzcHAH ISOLAT",
    "ED FORMzcKHAH ISOLATED FORMzcMEEM ISOLATED FORMzcREH ISOLATED FORMrEEN WITH REH ISOLATED FOR",
    "MrAD WITH REH ISOLATED FORMqDAD WITH REH ISOLATED FORMqTAH WITH ALEF MAKSURA FINAL FORMzaYEH",
    " FINAL FORMqAIN WITH ALEF MAKSURA FINAL FORMzaYEH FINAL FORMqGHAIN WITH ALEF MAKSURA FINAL F",
    "ORMzcYEH FINAL FORMqSEEN WITH ALEF MAKSURA FINAL FORMzbYEH FINAL FORMrHEEN WITH ALEF MAKSURA",
    " FINAL FORMzcYEH FINAL FORMqHAH WITH ALEF MAKSURA FINAL FORMzaYEH FINAL FORMqJEEM WITH ALEF ",
    "MAKSURA FINAL FORMzbYEH FINAL FORMqKHAH WITH ALEF MAKSURA FINAL FORMzbYEH FINAL FORMqSAD WIT",
    "H ALEF MAKSURA FINAL FORMzaYEH FINAL FORMqDAD WITH ALEF MAKSURA FINAL FORMzaYEH FINAL FORMqS",
    "HEEN WITH JEEM FINAL FORMzcHAH FINAL FORMzcKHAH FINAL FORMzcMEEM FINAL FORMzcREH FINAL FORMr",
    "EEN WITH REH FINAL FORMrAD WITH REH FINAL FORMqDAD WITH REH FINAL FORMqSHEEN WITH JEEM INITI",
    "AL FORMzcHAH INITIAL FORMzcKHAH INITIAL FORMzcMEEM INITIAL FORMrEEN WITH HEH INITIAL FORMrHE",
    "EN WITH HEH INITIAL FORMqTAH WITH MEEM INITIAL FORMqSEEN WITH JEEM MEDIAL FORMzbHAH MEDIAL F",
    "ORMzbKHAH MEDIAL FORMrHEEN WITH JEEM MEDIAL FORMzcHAH MEDIAL FORMzcKHAH MEDIAL FORMqTAH WITH",
    " MEEM MEDIAL FORMqZAH WITH MEEM MEDIAL FORMqALEF WITH FATHATAN FINAL FORMzkISOLATED FORMaORN",
    "ATE LEFT PARENTHESIShRIGHT PARENTHESISaARABIC LIGATURE RAHIMAHU ALLAAHsDI ALLAAHU ANHzhAAzhU",
    "MzjAAziNNAqSALLALLAAHU ALAYHI WA-AALIHqALAYHI AS-SALAAMwM AS-SALAAMxAA AS-SALAAMw AS-SALAATU",
    " WAS-SALAAMqQUDDISA SIRRAHqSALLALLAHU ALAYHI WAAALIHEE WA-SALLAMqALAYHAA AS-SALAAMqTABAARAKA",
    " WA-TAAALAAqRAHIMAHUM ALLAAHqTEH WITH JEEM WITH MEEM INITIAL FORMzaHAH WITH JEEM FINAL FORMz",
    "oINITIAL FORMzjMEEM INITIAL FORMzaKHAH WITH MEEM INITIAL FORMzaMEEM WITH JEEM INITIAL FORMzk",
    "HAH INITIAL FORMzkKHAH INITIAL FORMqJEEM WITH MEEM WITH HAH FINAL FORMzpINITIAL FORMqHAH WIT",
    "H MEEM WITH YEH FINAL FORMzkALEF MAKSURA FINAL FORMqSEEN WITH HAH WITH JEEM INITIAL FORMzbJE",
    "EM WITH HAH INITIAL FORMzlALEF MAKSURA FINAL FORMzbMEEM WITH HAH FINAL FORMzpINITIAL FORMzlJ",
    "EEM INITIAL FORMzlMEEM FINAL FORMzqINITIAL FORMrAD WITH HAH WITH HAH FINAL FORMznINITIAL FOR",
    "MzaMEEM WITH MEEM FINAL FORMrHEEN WITH HAH WITH MEEM FINAL FORMzqINITIAL FORMzcJEEM WITH YEH",
    " FINAL FORMzcMEEM WITH KHAH FINAL FORMzrINITIAL FORMzmMEEM FINAL FORMzrINITIAL FORMqDAD WITH",
    " HAH WITH ALEF MAKSURA FINAL FORMzaKHAH WITH MEEM FINAL FORMzpINITIAL FORMqTAH WITH MEEM WIT",
    "H HAH FINAL FORMzoINITIAL FORMzkMEEM INITIAL FORMzkYEH FINAL FORMqAIN WITH JEEM WITH MEEM FI",
    "NAL FORMzaMEEM WITH MEEM FINAL FORMzpINITIAL FORMzkALEF MAKSURA FINAL FORMqGHAIN WITH MEEM W",
    "ITH MEEM FINAL FORMzmYEH FINAL FORMzmALEF MAKSURA FINAL FORMqFEH WITH KHAH WITH MEEM FINAL F",
    "ORMzpINITIAL FORMqQAF WITH MEEM WITH HAH FINAL FORMzkMEEM FINAL FORMqLAM WITH HAH WITH MEEM ",
    "FINAL FORMzjYEH FINAL FORMzjALEF MAKSURA FINAL FORMzaJEEM WITH JEEM INITIAL FORMzpFINAL FORM",
    "zaKHAH WITH MEEM FINAL FORMzpINITIAL FORMzaMEEM WITH HAH FINAL FORMzoINITIAL FORMqMEEM WITH ",
    "HAH WITH JEEM INITIAL FORMzkMEEM INITIAL FORMzkYEH FINAL FORMzbJEEM WITH HAH INITIAL FORMzlM",
    "EEM INITIAL FORMzbKHAH WITH JEEM INITIAL FORMzlMEEM INITIAL FORM..zbJEEM WITH KHAH INITIAL F",
    "ORMqHEH WITH MEEM WITH JEEM INITIAL FORMzkMEEM INITIAL FORMqNOON WITH HAH WITH MEEM INITIAL ",
    "FORMzkALEF MAKSURA FINAL FORMzbJEEM WITH MEEM FINAL FORMzqINITIAL FORMzlALEF MAKSURA FINAL F",
    "ORMzbMEEM WITH YEH FINAL FORMzlALEF MAKSURA FINAL FORMqYEH WITH MEEM WITH MEEM FINAL FORMzpI",
    "NITIAL FORMqBEH WITH KHAH WITH YEH FINAL FORMqTEH WITH JEEM WITH YEH FINAL FORMzkALEF MAKSUR",
    "A FINAL FORMzaKHAH WITH YEH FINAL FORMzkALEF MAKSURA FINAL FORMzaMEEM WITH YEH FINAL FORMzkA",
    "LEF MAKSURA FINAL FORMqJEEM WITH MEEM WITH YEH FINAL FORMzbHAH WITH ALEF MAKSURA FINAL FORMz",
    "bMEEM WITH ALEF MAKSURA FINAL FORMqSEEN WITH KHAH WITH ALEF MAKSURA FINAL FORMrAD WITH HAH W",
    "ITH YEH FINAL FORMrHEEN WITH HAH WITH YEH FINAL FORMqDAD WITH HAH WITH YEH FINAL FORMqLAM WI",
    "TH JEEM WITH YEH FINAL FORMzaMEEM WITH YEH FINAL FORMqYEH WITH HAH WITH YEH FINAL FORMzaJEEM",
    " WITH YEH FINAL FORMzaMEEM WITH YEH FINAL FORMqMEEM WITH MEEM WITH YEH FINAL FORMqQAF WITH M",
    "EEM WITH YEH FINAL FORMqNOON WITH HAH WITH YEH FINAL FORMqQAF WITH MEEM WITH HAH INITIAL FOR",
    "MqLAM WITH HAH WITH MEEM INITIAL FORMqAIN WITH MEEM WITH YEH FINAL FORMqKAF WITH MEEM WITH Y",
    "EH FINAL FORMqNOON WITH JEEM WITH HAH INITIAL FORMqMEEM WITH KHAH WITH YEH FINAL FORMqLAM WI",
    "TH JEEM WITH MEEM INITIAL FORMqKAF WITH MEEM WITH MEEM FINAL FORMqLAM WITH JEEM WITH MEEM FI",
    "NAL FORMqNOON WITH JEEM WITH HAH FINAL FORMqJEEM WITH HAH WITH YEH FINAL FORMqHAH WITH JEEM ",
    "WITH YEH FINAL FORMqMEEM WITH JEEM WITH YEH FINAL FORMqFEH WITH MEEM WITH YEH FINAL FORMqBEH",
    " WITH HAH WITH YEH FINAL FORMqKAF WITH MEEM WITH MEEM INITIAL FORMqAIN WITH JEEM WITH MEEM I",
    "NITIAL FORMqSAD WITH MEEM WITH MEEM INITIAL FORMrEEN WITH KHAH WITH YEH FINAL FORMqNOON WITH",
    " JEEM WITH YEH FINAL FORM.......qSALAAMUHU ALAYNAA"]),
  (0xFDF0, ["aARABIC LIGATURE SALLA USED AS KORANIC STOP SIGN ISOLATED FORMqQALA USED AS KORANIC ",
    "STOP SIGN ISOLATED FORMqALLAH ISOLATED FORMrKBAR ISOLATED FORMqMOHAMMAD ISOLATED FORMqSALAM ",
    "ISOLATED FORMqRASOUL ISOLATED FORMqALAYHE ISOLATED FORMqWASALLAM ISOLATED FORMqSALLA ISOLATE",
    "D FORMvLLAHOU ALAYHE WASALLAMqJALLAJALALOUHOUaRIAL SIGNaARABIC LIGATURE BISMILLAH AR-RAHMAN ",
    "AR-RAHEEMqSUBHAANAHU WA TAAALAAqAZZA WA JALLaVARIATION SELECTOR-1t2t3t4t5t6t7t8t9t10u1u2u3u4",
    "u5u6aPRESENTATION FORM FOR VERTICAL COMMAzgIDEOGRAPHIC COMMAzsFULL STOPzgCOLONzgSEMICOLONzgE",
    "XCLAMATION MARKzgQUESTION MARKzgLEFT WHITE LENTICULAR BRACKETzgRIGHT WHITE LENTICULAR BRAKCE",
    "TzgHORIZONTAL ELLIPSIS......aCOMBINING LIGATURE LEFT HALFtRIGHT HALFkDOUBLE TILDE LEFT HALFx",
    "RIGHT HALFkMACRON LEFT HALFrRIGHT HALFkCONJOINING MACRONkLIGATURE LEFT HALF BELOWtRIGHT HALF",
    " BELOWkTILDE LEFT HALF BELOWqRIGHT HALF BELOWkMACRON LEFT HALF BELOWrRIGHT HALF BELOWkCONJOI",
    "NING MACRON BELOWlYRILLIC TITLO LEFT HALFzaRIGHT HALFaPRESENTATION FORM FOR VERTICAL TWO DOT",
    " LEADERzgEM DASHzhN DASHzgLOW LINEzgWAVY LOW LINEzgLEFT PARENTHESISzgRIGHT PARENTHESISzgLEFT",
    " CURLY BRACKETzgRIGHT CURLY BRACKETzgLEFT TORTOISE SHELL BRACKETzgRIGHT TORTOISE SHELL BRACK",
    "ETzgLEFT BLACK LENTICULAR BRACKETzgRIGHT BLACK LENTICULAR BRACKETzgLEFT DOUBLE ANGLE BRACKET",
    "zgRIGHT DOUBLE ANGLE BRACKETzgLEFT ANGLE BRACKETzgRIGHT ANGLE BRACKETzgLEFT CORNER BRACKETzg",
    "RIGHT CORNER BRACKETzgLEFT WHITE CORNER BRACKETzgRIGHT WHITE CORNER BRACKETaSESAME DOTaWHITE",
    " SESAME DOTaPRESENTATION FORM FOR VERTICAL LEFT SQUARE BRACKETzgRIGHT SQUARE BRACKETaDASHED ",
    "OVERLINEaCENTRELINE OVERLINEaWAVY OVERLINEaDOUBLE WAVY OVERLINEbASHED LOW LINEaCENTRELINE LO",
    "W LINEaWAVY LOW LINEaSMALL COMMAgIDEOGRAPHIC COMMAgFULL STOP.gSEMICOLONgCOLONgQUESTION MARKg",
    "EXCLAMATION MARKhM DASHgLEFT PARENTHESISgRIGHT PARENTHESISgLEFT CURLY BRACKETgRIGHT CURLY BR",
    "ACKETgLEFT TORTOISE SHELL BRACKETgRIGHT TORTOISE SHELL BRACKETgNUMBER SIGNgAMPERSANDhSTERISK",
    "gPLUS SIGNgHYPHEN-MINUSgLESS-THAN SIGNgGREATER-THAN SIGNgEQUALS SIGN.gREVERSE SOLIDUSgDOLLAR",
    " SIGNgPERCENT SIGNgCOMMERCIAL AT....aARABIC FATHATAN ISOLATED FORMhTATWEEL WITH FATHATAN ABO",
    "VEhDAMMATAN ISOLATED FORMhTAIL FRAGMENThKASRATAN ISOLATED FORM.hFATHA ISOLATED FORMnMEDIAL F",
    "ORMhDAMMA ISOLATED FORMnMEDIAL FORMhKASRA ISOLATED FORMnMEDIAL FORMhSHADDA ISOLATED FORMoMED",
    "IAL FORMiUKUN ISOLATED FORMnMEDIAL FORMhLETTER HAMZA ISOLATED FORMoALEF WITH MADDA ABOVE ISO",
    "LATED FORMzlFINAL FORMyHAMZA ABOVE ISOLATED FORMzlFINAL FORMoWAW WITH HAMZA ABOVE ISOLATED F",
    "ORMzkFINAL FORMoALEF WITH HAMZA BELOW ISOLATED FORMzlFINAL FORMoYEH WITH HAMZA ABOVE ISOLATE",
    "D FORMzkFINAL FORMzkINITIAL FORMzkMEDIAL FORMoALEF ISOLATED FORMtFINAL FORMoBEH ISOLATED FOR",
    "MsFINAL FORMsINITIAL FORMsMEDIAL FORMoTEH MARBUTA ISOLATED FORMzbFINAL FORMsISOLATED FORMsFI",
    "NAL FORMsINITIAL FORMsMEDIAL FORMpHEH ISOLATED FORMtFINAL FORMtINITIAL FORMtMEDIAL FORMoJEEM",
    " ISOLATED FORMtFINAL FORMtINITIAL FORMtMEDIAL FORMoHAH ISOLATED FORMsFINAL FORMsINITIAL FORM",
    "sMEDIAL FORMoKHAH ISOLATED FORMtFINAL FORMtINITIAL FORMtMEDIAL FORMoDAL ISOLATED FORMsFINAL ",
    "FORMoTHAL ISOLATED FORMtFINAL FORMoREH ISOLATED FORMsFINAL FORMoZAIN ISOLATED FORMtFINAL FOR",
    "MoSEEN ISOLATED FORMtFINAL FORMtINITIAL FORMtMEDIAL FORMpHEEN ISOLATED FORMuFINAL FORMuINITI",
    "AL FORMuMEDIAL FORMpAD ISOLATED FORMsFINAL FORMsINITIAL FORMsMEDIAL FORMoDAD ISOLATED FORMsF",
    "INAL FORMsINITIAL FORMsMEDIAL FORMoTAH ISOLATED FORMsFINAL FORMsINITIAL FORMsMEDIAL FORMoZAH",
    " ISOLATED FORMsFINAL FORMsINITIAL FORMsMEDIAL FORMoAIN ISOLATED FORMsFINAL FORMsINITIAL FORM",
    "sMEDIAL FORMoGHAIN ISOLATED FORMuFINAL FORMuINITIAL FORMuMEDIAL FORMoFEH ISOLATED FORMsFINAL",
    " FORMsINITIAL FORMsMEDIAL FORMoQAF ISOLATED FORMsFINAL FORMsINITIAL FORMsMEDIAL FORMoKAF ISO",
    "LATED FORMsFINAL FORMsINITIAL FORMsMEDIAL FORMoLAM ISOLATED FORMsFINAL FORMsINITIAL FORMsMED",
    "IAL FORMoMEEM ISOLATED FORMtFINAL FORMtINITIAL FORMtMEDIAL FORMoNOON ISOLATED FORMtFINAL FOR",
    "MtINITIAL FORMtMEDIAL FORMoHEH ISOLATED FORMsFINAL FORMsINITIAL FORMsMEDIAL FORMoWAW ISOLATE",
    "D FORMsFINAL FORMoALEF MAKSURA ISOLATED FORMzcFINAL FORMoYEH ISOLATED FORMsFINAL FORMsINITIA",
    "L FORMsMEDIAL FORMiIGATURE LAM WITH ALEF WITH MADDA ABOVE ISOLATED FORMzwFINAL FORMzkHAMZA A",
    "BOVE ISOLATED FORMzwFINAL FORMzqBELOW ISOLATED FORMzwFINAL FORMzfISOLATED FORMzfFINAL FORM..",
    "aZERO WIDTH NO-BREAK SPACE.aFULLWIDTH EXCLAMATION MARKkQUOTATION MARKkNUMBER SIGNkDOLLAR SIG",
    "NkPERCENT SIGNkAMPERSANDlPOSTROPHEkLEFT PARENTHESISkRIGHT PARENTHESISkASTERISKkPLUS SIGNkCOM",
    "MAkHYPHEN-MINUSkFULL STOPkSOLIDUSkDIGIT ZEROqONEqTWOrHREEqFOURrIVEqSIXrEVENqEIGHTqNINEkCOLON",
    "kSEMICOLONkLESS-THAN SIGNkEQUALS SIGNkGREATER-THAN SIGNkQUESTION MARKkCOMMERCIAL ATkLATIN CA",
    "PITAL LETTER AzgBzgCzgDzgEzgFzgGzgHzgIzgJzgKzgLzgMzgNzgOzgPzgQzgRzgSzgTzgUzgVzgWzgXzgYzgZlEF",
    "T SQUARE BRACKETkREVERSE SOLIDUSlIGHT SQUARE BRACKETkCIRCUMFLEX ACCENTkLOW LINEkGRAVE ACCENT",
    "kLATIN SMALL LETTER AzeBzeCzeDzeEzeFzeGzeHzeIzeJzeKzeLzeMzeNzeOzePzeQzeRzeSzeTzeUzeVzeWzeXze",
    "YzeZlEFT CURLY BRACKETkVERTICAL LINEkRIGHT CURLY BRACKETkTILDEkLEFT WHITE PARENTHESISkRIGHT ",
    "WHITE PARENTHESISaHALFWIDTH IDEOGRAPHIC FULL STOPkLEFT CORNER BRACKETkRIGHT CORNER BRACKETkI",
    "DEOGRAPHIC COMMAkKATAKANA MIDDLE DOTtLETTER WOzbSMALL AzhIzhUzhEzhOzhYAziUziOzhTUs-HIRAGANA ",
    "PROLONGED SOUND MARKs LETTER AzbIzbUzbEzbOzbKAzcIzcUzcEzcOzbSAzcIzcUzcEzcOzbTAzcIzcUzcEzcOzb",
    "NAzcIzcUzcEzcOzbHAzcIzcUzcEzcOzbMAzcIzcUzcEzcOzbYAzcUzcOzbRAzcIzcUzcEzcOzbWAzbNtVOICED SOUND",
    " MARKtSEMI-VOICED SOUND MARKkHANGUL FILLERrLETTER KIYEOKySSANGKIYEOKyKIYEOK-SIOSyNIEUNze-CIE",
    "UCzfHIEUHyTIKEUTySSANGTIKEUTyRIEULze-KIYEOKzfMIEUMzfPIEUPzfSIOSzfTHIEUTHzfPHIEUPHzfHIEUHyMIE",
    "UMyPIEUPySSANGPIEUPyPIEUP-SIOSySIOSzaSANGSIOSyIEUNGyCIEUCySSANGCIEUCyCHIEUCHyKHIEUKHyTHIEUTH",
    "yPHIEUPHyHIEUH...yAzaEyYAzbEyEOza..yYEOzbyOyWAzbEyOE..yYOyUyWEOzbzaIyYU..yEUyYIyI...aFULLWID",
    "TH CENT SIGNkPOUND SIGNkNOT SIGNkMACRONkBROKEN BARkYEN SIGNkWON SIGN.aHALFWIDTH FORMS LIGHT ",
    "VERTICALkLEFTWARDS ARROWkUPWARDS ARROWkRIGHTWARDS ARROWkDOWNWARDS ARROWkBLACK SQUAREkWHITE C",
    "IRCLE..........aINTERLINEAR ANNOTATION ANCHORxSEPARATORxTERMINATORaOBJECT REPLACEMENT CHARAC",
    "TERaREPLACEMENT CHARACTER..aLINEAR B SYLLABLE B008 Au38 Eu28 Iu61 Ou10 Uu01 DAu45 DEu07 DIu1",
    "4 DOu51 DUv7 JAu46 JE.u36 JOu65 JUu77 KAu44 KEu67 KIu70 KOu81 KUv0 MAu13 MEu73 MIu15 MOu23 M",
    "Uu06 NAu24 NEu30 NIu52 NOv5 NUu03 PAu72 PEu39 PIu11 POu50 PUu16 QAu78 QEu21 QIu32 QO.u60 RAu",
    "27 REu53 RIu02 ROu26 RUu31 SAu09 SEu41 SIu12 SOu58 SUv9 TAu04 TEu37 TIu05 TOu69 TUu54 WAu75 ",
    "WEu40 WIv2 WO.u17 ZAu74 ZE.u20 ZOv5 A2u43 A3u85 AUu71 DWEu90 DWOu48 NWAu29 PU2u62 PTEu76 RA2",
    "u33 RA3u68 RO2v6 TA2u87 TWEu91 TWO..lMBOL B018t9s22s34s47t9s56s63t4s79s82t3t6t9"]),
  (0x10080, ["aLINEAR B IDEOGRAM B100 MANv2 WOMANv4 DEERv5 EQUIDwF MAREwM STALLIONv6F EWEwM RAMv7",
    "F SHE-GOATwM HE-GOATv8F SOWwM BOARv9F COWwM BULLu20 WHEATv1 BARLEYv2 OLIVEv3 SPICEv5 CYPERUS",
    "jMONOGRAM B127 KAPOv8 KANAKOjIDEOGRAM B130 OILv1 WINEv2jMONOGRAM B133 AREPAv5 MERIjIDEOGRAM ",
    "B140 BRONZEv1 GOLDv2v5 WOOLv6u50v1 HORNv2v3v4jMONOGRAM B156 TURO2jIDEOGRAM B157v8v9 CLOTHu60",
    "v1v2 GARMENTv3 ARMOURv4v5v6v7v8v9u70v1v2v3 MONTHv4v6 TREEv7v8v9u80v1v2v3v4v5v9u90v1 HELMETt2",
    "20 FOOTSTOOLv5 BATHTUBu30 SPEARv1 ARROWv2v3 SWORDv4v6u40 WHEELED CHARIOTv1 CHARIOTv2 CHARIOT",
    " FRAMEv3 WHEELv5v6jMONOGRAM B247 DIPTEjIDEOGRAM B248v9u51v2v3v4 DARTv5v6v7v8v9sVESSEL B155zb",
    "200zd1zd2zd3zd4zd5zd6zd7zd8zd9zc10zd1zd2zd3zd4zd5zd6zd7zd8zd9zc21zd2zd6zd7zd8zd9zc50zb305...",
    "..aAEGEAN WORD SEPARATOR LINEwDOThCHECK MARK....hNUMBER ONEoTWOpHREEoFOURpIVEoSIXpEVENoEIGHT",
    "oNINEoTENpWENTYpHIRTYoFORTYpIFTYoSIXTYpEVENTYoEIGHTYoNINETYoONE HUNDREDoTWO HUNDREDpHREE HUN",
    "DREDoFOUR HUNDREDpIVE HUNDREDoSIX HUNDREDpEVEN HUNDREDoEIGHT HUNDREDoNINE HUNDREDoONE THOUSA",
    "NDoTWO THOUSANDpHREE THOUSANDoFOUR THOUSANDpIVE THOUSANDoSIX THOUSANDpEVEN THOUSANDoEIGHT TH",
    "OUSANDoNINE THOUSANDoTEN THOUSANDpWENTY THOUSANDpHIRTY THOUSANDoFORTY THOUSANDpIFTY THOUSAND",
    "oSIXTY THOUSANDpEVENTY THOUSANDoEIGHTY THOUSANDoNINETY THOUSAND...hWEIGHT BASE UNIToFIRST SU",
    "BUNIToSECOND SUBUNIToTHIRD SUBUNIToFOURTH SUBUNIThDRY MEASURE FIRST SUBUNIThLIQUID MEASURE F",
    "IRST SUBUNIThMEASURE SECOND SUBUNITpTHIRD SUBUNITaGREEK ACROPHONIC ATTIC ONE QUARTERzcHALFzc",
    "DRACHMAxFIVEzaFTYzaVE HUNDREDzdTHOUSANDzaFTY THOUSANDzaVE TALENTSxTEN TALENTSxFIFTY TALENTSx",
    "ONE HUNDRED TALENTSxFIVE HUNDRED TALENTSxONE THOUSAND TALENTSxFIVE THOUSAND TALENTSzdSTATERS",
    "xTEN STATERSxFIFTY STATERSxONE HUNDRED STATERSxFIVE HUNDRED STATERSxONE THOUSAND STATERSxTEN",
    " THOUSAND STATERSxFIFTY THOUSAND STATERSxTEN MNASrHERAEUM ONE PLETHRONrTHESPIAN ONErHERMIONI",
    "AN ONErEPIDAUREAN TWOrTHESPIAN TWOrCYRENAIC TWO DRACHMASrEPIDAUREAN TWO DRACHMASrTROEZENIAN ",
    "FIVEzdTENzg ALTERNATE FORMrHERMIONIAN TENrMESSENIAN TENrTHESPIAN TENzcHIRTYsROEZENIAN FIFTYz",
    "i ALTERNATE FORMrHERMIONIAN FIFTYrTHESPIAN FIFTYzbONE HUNDREDzbTHREE HUNDREDrEPIDAUREAN FIVE",
    " HUNDREDrTROEZENIAN FIVE HUNDREDsHESPIAN FIVE HUNDREDrCARYSTIAN FIVE HUNDREDrNAXIAN FIVE HUN",
    "DREDrTHESPIAN ONE THOUSANDzbFIVE THOUSANDrDELPHIC FIVE MNASrSTRATIAN FIFTY MNASgONE HALF SIG",
    "Nt ALTERNATE FORMgTWO THIRDS SIGNhHREE QUARTERS SIGNgYEAR SIGNgTALENT SIGNgDRACHMA SIGNgOBOL",
    " SIGNgTWO OBOLS SIGNhHREE OBOLS SIGNgFOUR OBOLS SIGNhIVE OBOLS SIGNgMETRETES SIGNgKYATHOS BA",
    "SE SIGNgLITRA SIGNgOUNKIA SIGNgXESTES SIGNgARTABE SIGNiOURA SIGNgGRAMMA SIGNgTRYBLION BASE S",
    "IGNgZERO SIGNgONE QUARTER SIGNgSINUSOID SIGNgINDICTION SIGNaNOMISMA SIGN.aROMAN SEXTANS SIGN",
    "gUNCIA SIGNgSEMUNCIA SIGNiXTULA SIGNgDIMIDIA SEXTULA SIGNgSILIQUA SIGNgDENARIUS SIGNgQUINARI",
    "US SIGNgSESTERTIUS SIGNgDUPONDIUS SIGNgAS SIGNgCENTURIAL SIGNaASCIA SYMBOL...aGREEK SYMBOL T",
    "AU RHO"]),
  (0x101D0, ["aPHAISTOS DISC SIGN PEDESTRIANuLUMED HEADtTATTOOED HEADtCAPTIVEuHILDtWOMANtHELMETtG",
    "AUNTLETtTIARAtARROWtBOWtSHIELDtCLUBtMANACLESvTTOCKtSAWtLIDtBOOMERANGtCARPENTRY PLANEtDOLIUMt",
    "COMBtSLINGtCOLUMNtBEEHIVEtSHIPtHORNuIDEtBULLS LEGtCATtRAMtEAGLEtDOVEtTUNNYtBEEtPLANE TREEtVI",
    "NEtPAPYRUStROSETTEtLILYtOX BACKtFLUTEtGRATERtSTRAINERuMALL AXEtWAVY BANDtCOMBINING OBLIQUE S",
    "TROKE"]),
  (0x10280, ["aLYCIAN LETTER AoEoBpHoGoDoIoWoZoTHoJoKoQoLoMoNoMMoNNoUoPoKKoRoSoTpToANoENoHoX...aC",
    "ARIAN LETTER AoP2oDoLoUUUoRoLDoA2oQoBoMoOoD2oToSHq2poC-18oUoNNoXoNoTT2oPoSSoIoEoUUUUoKp2oNDo",
    "UUoGp2oSTq2oNGoIIoC-39oTToUUU2oRRoMBq2q3q4oLD2oE2oUUU3...............bOPTIC EPACT THOUSANDS ",
    "MARKnDIGIT ONEtTWOuHREEtFOURuIVEtSIXuEVENtEIGHTtNINEnNUMBER TENvWENTYvHIRTYuFORTYvIFTYuSIXTY",
    "vEVENTYuEIGHTYuNINETYuONE HUNDREDuTWO HUNDREDvHREE HUNDREDuFOUR HUNDREDvIVE HUNDREDuSIX HUND",
    "REDvEVEN HUNDREDuEIGHT HUNDREDuNINE HUNDRED....aOLD ITALIC LETTER AsBEsKEsDEsEsVEsZEsHEsTHEs",
    "IsKAsELtMtNtSHsOsPEsSHEsKUsERtSsTEsUsEKSsPHEsKHEsEFtRSsCHEsIIsUUsESSlNUMERAL ONEtFIVEtTENtFI",
    "FTY.........lLETTER YEsNORTHERN TSEsSOUTHERN TSEaGOTHIC LETTER AHSAoBAIRKANoGIBAoDAGSoAIHVUS",
    "oQAIRTHRAoIUJAoHAGLoTHIUTHoEISoKUSMAoLAGUSoMANNAoNAUTHSoJERoURUSoPAIRTHRAoNINETYoRAIDAoSAUIL",
    "oTEIWSoWINJAoFAIHUoIGGWSoHWAIRoOTHALoNINE HUNDRED.....aOLD PERMIC LETTER ANsBURsGAIsDOIsEsZH",
    "OIsDZHOIsZATAsDZITAsIsKOKEsLEIsMENOEsNENOEsVOOIsPEEIsREIsSIIsTAIsUsCHERYsSHOOIuCHOOIsYRYtERU",
    "sOtOsEFsHAsTSIUsVERsYERvItATsIEsYUtAsIAaCOMBINING OLD PERMIC LETTER ANzdDOIzdZATAzdNENOEzdSI",
    "I.....aUGARITIC LETTER ALPAqBETAqGAMLAqKHAqDELTAqHOqWOqZETAqHOTAqTETqYODqKAFqSHINqLAMDAqMEMq",
    "DHALqNUNqZUqSAMKAqAINqPUqSADEqQOPAqRASHAqTHANNAqGHAINqTOqIqUqSSU.jWORD DIVIDERaOLD PERSIAN S",
    "IGN ArIrUrKAsUrGAsUrXArCArJAsIrTAsUrDAsIsUrTHArPArBArFArNAsUrMAsIsUrYArVAsIrRAsUrLArSArZArSH",
    "AsSArHA....rAURAMAZDAAzc-2zcHArXSHAAYATHIYArDAHYAAUSHzb-2rBAGAsUUMISHmWORD DIVIDERmNUMBER ON",
    "EtTWOuENuWENTYtHUNDRED"]),
  (0x10400, ["aDESERET CAPITAL LETTER LONG IzdEzdAzeHzdOzeOxSHORT IzeEzeAzfHzeOzfOxAYxOWxWUxYEExH",
    "xPEExBEExTEExDEExCHEExJEExKAYxGAYxEFxVEExETHxTHEExESxZEExESHxZHEExERyLyMyNzaGxOIxEWiSMALL LE",
    "TTER LONG IzbEzbAzcHzbOzcOvSHORT IzcEzcAzdHzcOzdOvAYvOWvWUvYEEvHvPEEvBEEvTEEvDEEvCHEEvJEEvKA",
    "YvGAYvEFvVEEvETHvTHEEvESvZEEvESHvZHEEvERwLwMwNxGvOIvEWaSHAVIAN LETTER PEEPpTOTpKICKpFEEpTHIG",
    "HpSOqUREpCHURCHpYEApHUNGpBIBpDEADpGAGpVOWpTHEYpZOOpMEASUREpJUDGEpWOEpHA-HApLOLLpMIMEpIFpEGGp",
    "ASHqDOpONpWOOLpOUTpAHpROARpNUNpEATpAGEpICEpUPpOAKqOZEqILpAWEqREpORpAIRpERRpARRAYpEARpIANpYEW",
    "aOSMANYA LETTER ALEFpBApTApJApXApKHApDEELpRApSAqHIINpDHApCAYNpGApFApQAAFpKAAFpLAANpMIINpNUUN",
    "pWAWpHApYApApEpIpOpUpAApEEpOO..iDIGIT ZEROoONEoTWOpHREEoFOURpIVEoSIXpEVENoEIGHToNINE......cA",
    "GE CAPITAL LETTER AwIxNwHvBRAvCHAvEHCHAwwINvHAwYAvIvKAvEHKAvKYAvLAvMAvNAvOwINvPAvEHPAvSAwHAv",
    "TAvEHTAvTSAvEHTSAvTSHAvDHAvUvWAvKHAvGHAvZAwHA....gSMALL LETTER AuIvNuHtBRAtCHAtEHCHAuuINtHAu",
    "YAtItKAtEHKAtKYAtLAtMAtNAtOuINtPAtEHPAtSAuHAtTAtEHTAtTSAtEHTSAtTSHAtDHAtUtWAtKHAtGHAtZAuHA..",
    "..aELBASAN LETTER ApBEpCEqHEpDEpNDEpDHEpEIqpFEpGEqJEpHEpIpJEpKEpLEqLEpMEpNEqAqJEpOpPEpQEpREq",
    "REpSEqHEpTEqHEpUpVEpXEpYpZEqHEpGHErAMMApKHE........aCAUCASIAN ALBANIAN LETTER ALTzbBETzbGIMz",
    "bDATzbEBzbZARLzbEYNzbZHILzbTASzbCHAzbYOWDzbZHAzbIRBzbSHAzbLANzbINYAzbXEYNzbDYANzbCARzbJHOXzb",
    "KARzbLYITzbHEYTzbQAYzbAORzbCHOYzdIzcYAYzbMAQzbQARzbNOWCzbDZYAYzbSHAKzbJAYNzbONzbTYAYzbFAMzbD",
    "ZAYzbCHATzbPENzbGHEYSzbRATzbSEYKzbVEYZzbTIWRzbSHOYzbIWNzbCYAWzcAYNzbYAYDzbPIWRzbKIW.........",
    "..tCITATION MARKaVITHKUQI CAPITAL LETTER AyBBEzaEyCEzaHEyDEzaHEyEIzayFEyGA.yHAzaHAyIzaJEyJEy",
    "KAyLAzaLAyMEyNEzaJEyOyPEyQAyRE.ySEzaHEyTEzaHEyUyVEyXE.yYyZE.jSMALL LETTER AwBBExEwCExHEwDExH",
    "EwEIxwFEwGA.wHAxHAwIxJEwJEwKAwLAxLAwMEwNExJEwOwPEwQAwRE.wSExHEwTExHEwUwVEwXE.wYwZE"]),
  (0x10600, ["aLINEAR A SIGN AB001s2s3s4s5s6s7s8s9r10s1s3s6s7r20s1tFtMs2tFtMs3tMs4s6s7s8p028BpB02",
    "9r30s1s4s7s8s9r40s1s4s5s6s7s8s9r50s1s3s4s5s6s7s8s9r60s1s5s6s7s9r70s3s4s6s7s8s9r80s1s2s5s6s7p",
    "100-102pB118r20p120BpB122s3r31AtBp131CpB164r71r80s8r91p301r2r3r4r5r6r7r8r9AsBsCq10r1r2r3AsBs",
    "Cr4r5r6r7r8r9q20r1r2r3r4r5r6r7r8r9q30r1r2r3r4r5r6r7r8r9q40r1r2r3r4r5r6r7r8r9q50r1r2r3r4r5r6r",
    "7r8r9q60r1r2r3r4r5r6r7r8r9q70r1p400-VASr1-VASr2-VASr3-VASr4-VASr5-VASr6-VASr7-VASr8-VASr9-VA",
    "Sq10-VASr1-VASr2-VASr3-VASr4-VASr5-VASr6-VASr7-VASr8-VASp501r2r3r4r5r6r8r9q10r1r2r3r5r6q20r1",
    "r3r4r5r6r7r8r9q30r1r2r4r5r6r7r8r9q40r1r2r5r7r8r9q50r1r2r3r4r5r6r7r9q63r4r5r6r8r9q70r1r2r3r4r",
    "5r6r7r8r9q80r1r2r3r4r5r6r7r8r9q91r2r4r5r6r8p600r1r2r3r4r6r8r9q10r1r2r3r4r5r6r7r8r9q20r1r2r3r",
    "4r6r7r8r9q34r7r8q40r2r3r4r5r6r8r9q51r2r3r4r5r6r7r8r9q60r1r2r3r4.........p701 Ar2 Br3 Dr4 Er5",
    " Fr6 Hr7 Jr8 Kr9 Ls-2 L2t3 L3t4 L4t6 L6q10 Wr1 Xr2 Yr3 OMEGAr4 ABBr5 BBr7 DDq26 EYYYq32 JE..",
    "........p800r1r2r3r4r5r6r7"]),
  (0x10780, ["aMODIFIER LETTER SMALL CAPITAL AArUPERSCRIPT TRIANGULAR COLONzdHALF TRIANGULAR COLO",
    "NrMALL AEwCAPITAL BwB WITH HOOK.wDZ DIGRAPHzh WITH RETROFLEX HOOKznCURLxEZH DIGRAPHx WITH TA",
    "ILzeHOOKzi AND TAILwREVERSED EwCLOSED REVERSED OPEN EwFENG DIGRAPHwRAMS HORNwCAPITAL GwG WIT",
    "H HOOKwCAPITAL G WITH HOOKwH WITH STROKEwCAPITAL HwHENG WITH HOOKwDOTLESS J WITH STROKE AND ",
    "HOOKwLS DIGRAPHxZ DIGRAPHx WITH BELTwCAPITAL L WITH BELTwL WITH RETROFLEX HOOK AND BELTxEZHz",
    "b WITH RETROFLEX HOOKwTURNED Yzf WITH BELTwO WITH STROKEwCAPITAL OExLOSED OMEGAwQwTURNED R W",
    "ITH LONG LEGzt AND RETROFLEX HOOKwR WITH TAILzeFISHHOOKwCAPITAL RwTC DIGRAPH WITH CURLxS DIG",
    "RAPHzh WITH RETROFLEX HOOKxESH DIGRAPHx WITH RETROFLEX HOOKwV WITH RIGHT HOOK.wCAPITAL YqGLO",
    "TTAL STOP WITH STROKEqREVERSED GLOTTAL STOP WITH STROKEqBILABIAL CLICKqDENTAL CLICKqLATERAL ",
    "CLICKqALVEOLAR CLICKqRETROFLEX CLICK WITH RETROFLEX HOOKqSMALL S WITH CURL"]),
  (0x10800, ["aCYPRIOT SYLLABLE ArErIrOrUrJA..sO.rKAsEsIsOsUrLAsEsIsOsUrMAsEsIsOsUrNAsEsIsOsUrPAs",
    "EsIsOsUrRAsEsIsOsUrSAsEsIsOsUrTAsEsIsOsUrWAsEsIsO.rXAsE...rZA..sOaIMPERIAL ARAMAIC LETTER AL",
    "EPHyBETHyGIMELyDALETHyHEyWAWyZAYINyHETHyTETHyYODHyKAPHyLAMEDHyMEMyNUNySAMEKHyAYINyPEySADHEyQ",
    "OPHyRESHySHINyTAW.rSECTION SIGNrNUMBER ONEyTWOzaHREEzaENzaWENTYyONE HUNDREDzdTHOUSANDyTEN TH",
    "OUSANDaPALMYRENE LETTER ALEPHrBETHrGIMELrDALETHrHErWAWrZAYINrHETHrTETHrYODHrKAPHrLAMEDHrMEMr",
    "FINAL NUNrNUNrSAMEKHrAYINrPErSADHErQOPHrRESHrSHINrTAWmFT-POINTING FLEURONkRIGHT-POINTING FLE",
    "URONkNUMBER ONErTWOsHREErFOURsIVErTENsWENTYaNABATAEAN LETTER FINAL ALEPHrALEPHrFINAL BETHrBE",
    "THrGIMELrDALETHrFINAL HErHErWAWrZAYINrHETHrTETHrFINAL YODHrYODHrFINAL KAPHrKAPHrFINAL LAMEDH",
    "rLAMEDHrFINAL MEMrMEMrFINAL NUNrNUNrSAMEKHrAYINrPErSADHErQOPHrRESHrFINAL SHINrSHINrTAW......",
    "..kNUMBER ONErTWOsHREErFOURkCRUCIFORM NUMBER FOURkNUMBER FIVErTENsWENTYrONE HUNDRED"]),
  (0x108E0, ["aHATRAN LETTER ALEPHoBETHoGIMELoDALETH-RESHoHEoWAWoZAYNoHETHoTETHoYODHoKAPHoLAMEDHo",
    "MEMoNUNoSAMEKHoAYNoPEoSADHEoQOPH.oSHINoTAW.....hNUMBER ONEoFIVEoTENpWENTYoONE HUNDREDaPHOENI",
    "CIAN LETTER ALFsBETsGAMLsDELTsHEsWAUsZAIsHETsTETsYODsKAFsLAMDsMEMsNUNsSEMKsAINsPEsSADEsQOFsR",
    "OSHsSHINsTAUlNUMBER ONEsTENtWENTYsONE HUNDREDsTWOtHREE...lWORD SEPARATORaLYDIAN LETTER AoBoG",
    "oDoEoVoIoYoKoLoMoNoOoRoSSoToUoFoQoSoTToANoENoLYoNNoC.....hTRIANGULAR MARK"]),
  (0x10980, ["aMEROITIC HIEROGLYPHIC LETTER AzeEzeIzeOzeYAzeWAzeBAzg-2zePAzeMAzeNAzg-2zfEzg-2zeRA",
    "zg-2zeLAzeKHAzeHHAzeSAzg-2zfEzeKAzeQAzeTAzg-2zfEzg-2zfOzeDAwSYMBOL VIDJzi-2jCURSIVE LETTER A",
    "yEyIyOyYAyWAyBAyPAyMAyNAzaEyRAyLAyKHAyHHAySAyARCHAIC SAySEyKAyQAyTAzaEzaOyDA....rFRACTION EL",
    "EVEN TWELFTHSzbONE HALFrLOGOGRAM RMTzbIMNrNUMBER ONEyTWOzaHREEyFOURzaIVEySIXzaEVENyEIGHTyNIN",
    "EyTENzaWENTYzaHIRTYyFORTYzaIFTYySIXTYzaEVENTY..yONE HUNDREDyTWO HUNDREDzaHREE HUNDREDyFOUR H",
    "UNDREDzaIVE HUNDREDySIX HUNDREDzaEVEN HUNDREDyEIGHT HUNDREDyNINE HUNDREDyONE THOUSANDyTWO TH",
    "OUSANDzaHREE THOUSANDyFOUR THOUSANDzaIVE THOUSANDySIX THOUSANDzaEVEN THOUSANDyEIGHT THOUSAND",
    "yNINE THOUSANDyTEN THOUSANDzaWENTY THOUSANDzaHIRTY THOUSANDyFORTY THOUSANDzaIFTY THOUSANDySI",
    "XTY THOUSANDzaEVENTY THOUSANDyEIGHTY THOUSANDyNINETY THOUSANDyONE HUNDRED THOUSANDyTWO HUNDR",
    "ED THOUSANDzaHREE HUNDRED THOUSANDyFOUR HUNDRED THOUSANDzaIVE HUNDRED THOUSANDySIX HUNDRED T",
    "HOUSANDzaEVEN HUNDRED THOUSANDyEIGHT HUNDRED THOUSANDyNINE HUNDRED THOUSANDrFRACTION ONE TWE",
    "LFTHzbTWO TWELFTHSzcHREE TWELFTHSzbFOUR TWELFTHSzcIVE TWELFTHSzbSIX TWELFTHSzcEVEN TWELFTHSz",
    "bEIGHT TWELFTHSzbNINE TWELFTHSzbTEN TWELFTHSaKHAROSHTHI LETTER AlVOWEL SIGN IwUwVOCALIC R.wE",
    "wO.....rLENGTH MARKlSIGN DOUBLE RING BELOWqANUSVARAqVISARGAlLETTER KAtHAsGAtHA.sCAtHAsJA.sNY",
    "AsTTAuHAsDDAuHAsNNAsTAtHAsDAtHAsNAsPAtHAsBAtHAsMAsYAsRAsLAsVAsSHAtSAtAsZAsHAsKKAsTTTHAvAsVHA",
    "..lSIGN BAR ABOVEqCAUDAqDOT BELOW....lVIRAMAlDIGIT ONErTWOsHREErFOURlNUMBER TENtWENTYsONE HU",
    "NDREDwTHOUSANDlFRACTION ONE HALF.......lPUNCTUATION DOTxSMALL CIRCLExCIRCLEyRESCENT BARxMANG",
    "ALAMxLOTUSxDANDAyOUBLE DANDAxLINES.......aOLD SOUTH ARABIAN LETTER HEzaLAMEDHzaHETHzaMEMzaQO",
    "PHzaWAWzaSHINzaRESHzaBETHzaTAWzaSATzaKAPHzaNUNzaKHETHzaSADHEzcMEKHzaFEzaALEFzbYNzaDHADHEzaGI",
    "MELzaDALETHzaGHAYNzaTETHzaZAYNzaDHALETHzaYODHzaTHAWzcETHsNUMBER ONEzaFIFTYvERIC INDICATOReNO",
    "RTH ARABIAN LETTER HEHzaLAMzaHAHzaMEEMzaQAFzaWAWzaES-2zaREHzaBEHzaTEHzaES-1zaKAFzaNOONzaKHAH",
    "zaSADzaES-3zaFEHzaALEFzbINzaDADzaGEEMzaDALzaGHAINzaTAHzaZAINzaTHALzaYEHzaTHEHzaZAHsNUMBER ON",
    "EzaTENzbWENTY"]),
  (0x10AC0, ["aMANICHAEAN LETTER ALEPHsBETHtHETHsGIMELtHIMELsDALETHsHEsWAWlSIGN UDlLETTER ZAYINtH",
    "AYINsJAYINtHAYINsHETHsTETHsYODHsKAPHsXAPHsKHAPHsLAMEDHsDHAMEDHsTHAMEDHsMEMsNUNsSAMEKHsAYINtA",
    "YINsPEsFEsSADHEsQOPHsXOPHsQHOPHsRESHsSHINtSHINsTAWlABBREVIATION MARK ABOVEzeBELOW....lNUMBER",
    " ONEsFIVEsTENtWENTYsONE HUNDREDlPUNCTUATION STARxFLEURONxDOUBLE DOT WITHIN DOTzaT WITHIN DOT",
    "zbxTWO DOTSxLINE FILLER.........aAVESTAN LETTER AqAqOqAOqNqANqErEpEqEpOqOpIqIpUqUpKEpXEqYEqV",
    "EpGEqGEqHEpCEpJEpTEqHEpDEqHEpTTEpPEpFEpBEqHEpNGErYErVEqEqYEqNEpMEpHMEpYYEqEpVEpREpLEpSEpZEpS",
    "HEpZHEpSHYEqSHEpHE...iABBREVIATION MARKaTINY TWO DOTS OVER ONE DOT PUNCTUATIONaSMALL TWO DOT",
    "S OVER ONE DOT PUNCTUATIONaLARGE TWO DOTS OVER ONE DOT PUNCTUATIONgONE DOT OVER TWO DOTS PUN",
    "CTUATIONgTWO RINGS OVER ONE RING PUNCTUATIONgONE RING OVER TWO RINGS PUNCTUATIONaINSCRIPTION",
    "AL PARTHIAN LETTER ALEPHzfBETHzfGIMELzfDALETHzfHEzfWAWzfZAYINzfHETHzfTETHzfYODHzfKAPHzfLAMED",
    "HzfMEMzfNUNzfSAMEKHzfAYINzfPEzfSADHEzfQOPHzfRESHzfSHINzfTAW..xNUMBER ONEzfTWOzgHREEzfFOURzfT",
    "ENzgWENTYzfONE HUNDREDzjTHOUSANDqHLAVI LETTER ALEPHzeBETHzeGIMELzeDALETHzeHEzeWAW-AYIN-RESHz",
    "eZAYINzeHETHzeTETHzeYODHzeKAPHzeLAMEDHzeMEM-QOPHzeNUNzeSAMEKHzePEzeSADHEzfHINzeTAW.....wNUMB",
    "ER ONEzeTWOzfHREEzeFOURzeTENzfWENTYzeONE HUNDREDziTHOUSANDaPSALTER PAHLAVI LETTER ALEPHxBETH",
    "xGIMELxDALETHxHExWAW-AYIN-RESHxZAYINxHETHxYODHxKAPHxLAMEDHxMEM-QOPHxNUNxSAMEKHxPExSADHEyHINx",
    "TAW.......qSECTION MARKqTURNED SECTION MARKqFOUR DOTS WITH CROSSzgDOT............qNUMBER ONE",
    "xTWOyHREExFOURxTENyWENTYxONE HUNDRED"]),
  (0x10C00, ["aOLD TURKIC LETTER ORKHON AsYENISEI AzcEsORKHON IsYENISEI IzbEsORKHON OzbEsYENISEI ",
    "OEsORKHON ABsYENISEI ABsORKHON AEBsYENISEI AEBsORKHON AGsYENISEI AGsORKHON AEGsYENISEI AEGsO",
    "RKHON ADsYENISEI ADsORKHON AEDzaEZsYENISEI EZsORKHON AYsYENISEI AYsORKHON AEYsYENISEI AEYsOR",
    "KHON AEKsYENISEI AEKsORKHON OEKsYENISEI OEKsORKHON ALsYENISEI ALsORKHON AELzaELTzbMzaANzbENs",
    "YENISEI AENsORKHON ENTsYENISEI ENTsORKHON ENCsYENISEI ENCsORKHON ENYsYENISEI ENYzbANGsORKHON",
    " ENGsYENISEI AENGsORKHON EPzaOPzaICzaECsYENISEI ECsORKHON AQsYENISEI AQsORKHON IQsYENISEI IQ",
    "sORKHON OQsYENISEI OQsORKHON ARsYENISEI ARsORKHON AERzbSzbESzbSHsYENISEI ASHsORKHON ESHsYENI",
    "SEI ESHsORKHON ATsYENISEI ATsORKHON AETsYENISEI AETsORKHON OTzaBASH"]),
  (0x10C80, ["aOLD HUNGARIAN CAPITAL LETTER AzfAzeEBzeAMBzeECzfNCzfCSzfDzeANDzeEzeCLOSE EzeEEzfFz",
    "fGzgYzfHzeIzfIzeEJzfKzeAKzeUNKzeELzgYzfMzfNzgYzeOzfOzeNIKOLSBURG OEzeRUDIMENTA OEzeOEEzeEPzf",
    "MPzfRzeSHORT ERzeESzgZzfTzfNTzfTYzfCHzeUzfUzeNIKOLSBURG UEzeRUDIMENTA UEzeEVzfZzgSzfNT-SHAPE",
    "D SIGNzeUS.............oSMALL LETTER AzdAzcEBzcAMBzcECzdNCzdCSzdDzcANDzcEzcCLOSE EzcEEzdFzdG",
    "zeYzdHzcIzdIzcEJzdKzcAKzcUNKzcELzeYzdMzdNzeYzcOzdOzcNIKOLSBURG OEzcRUDIMENTA OEzcOEEzcEPzdMP",
    "zdRzcSHORT ERzcESzeZzdTzdNTzdTYzdCHzcUzdUzcNIKOLSBURG UEzcRUDIMENTA UEzcEVzdZzeSzdNT-SHAPED ",
    "SIGNzcUS.......oNUMBER ONEvFIVEvTENvFIFTYvONE HUNDREDzaTHOUSANDaHANIFI ROHINGYA LETTER AxBAx",
    "PAxTAyTAxJAxCAxHAxKHAxFAxDAyDAxRAyRAxZAxSAyHAxKAxGAxLAxMAxNAxWAxKINNA WAxYAxKINNA YAxNGAyYAx",
    "VAqVOWEL AwIwUwEwOqMARK SAKINvNA KHONNAqSIGN HARBAHAYvTAHALAxNAxSSI........qDIGIT ZEROwONEwT",
    "WOxHREEwFOURxIVEwSIXxEVENwEIGHTwNINE"]),
  (0x10E60, ["aRUMI DIGIT ONElTWOmHREElFOURmIVElSIXmEVENlEIGHTlNINEfNUMBER TENnWENTYnHIRTYmFORTYn",
    "IFTYmSIXTYnEVENTYmEIGHTYmNINETYmONE HUNDREDmTWO HUNDREDnHREE HUNDREDmFOUR HUNDREDnIVE HUNDRE",
    "DmSIX HUNDREDnEVEN HUNDREDmEIGHT HUNDREDmNINE HUNDREDfFRACTION ONE HALFsQUARTERsTHIRDoTWO TH",
    "IRDS.aYEZIDI LETTER ELIFoBEoPEpHEoTHEoSEoCIMpHIMqHIMoHHAoXAoDALoZALoRApHAoZAoJAoSINpHINpADoD",
    "ADoTAoZEoEYNoXHEYNoFAoVAq ALTERNATE FORMoQAFoKAFpHAFoGAFoLAMoMIMoNUNoUMoWAWoOWoEWoHAYoYOToET",
    ".hCOMBINING HAMZA MARKrMADDA MARKhHYPHENATION MARK..hLETTER LAM WITH DOT ABOVEoYOT WITH CIRC",
    "UMFLEX ABOVE"]),
  (0x10F00, ["aOLD SOGDIAN LETTER ALEPHtFINAL ALEPHtBETHtFINAL BETHtGIMELtHEtFINAL HEtWAWtZAYINtH",
    "ETHtYODHtKAPHtLAMEDHtMEMtNUNtFINAL NUNzd WITH VERTICAL TAILtSAMEKHtAYINuLTERNATE AYINtPEtSAD",
    "HEtFINAL SADHEzf WITH VERTICAL TAILtRESH-AYIN-DALETHtSHINtTAWtFINAL TAWzd WITH VERTICAL TAIL",
    "mNUMBER ONEtTWOuHREEtFOURuIVEtTENuWENTYuHIRTYtONE HUNDREDmFRACTION ONE HALFmLIGATURE AYIN-DA",
    "LETH........aSOGDIAN LETTER ALEPHpBETHpGIMELpHEpWAWpZAYINpHETHpYODHpKAPHpLAMEDHpMEMpNUNpSAME",
    "KHpAYINpPEpSADHEpRESH-AYINpSHINpTAWpFETHpLESHiINDEPENDENT SHINiCOMBINING DOT BELOWsTWO DOTS ",
    "BELOWsDOT ABOVEsTWO DOTS ABOVEsCURVE ABOVEyBELOWsHOOK ABOVExBELOWsLONG HOOK BELOWsRESH BELOW",
    "sSTROKE BELOWiNUMBER ONEpTENqWENTYpONE HUNDREDiPUNCTUATION TWO VERTICAL BARSzm WITH DOTSuCIR",
    "CLE WITH DOTuTWO CIRCLES WITH DOTSuHALF CIRCLE WITH DOT"]),
  (0x10F70, ["aOLD UYGHUR LETTER ALEPHsBETHsGIMEL-HETHsWAWsZAYINsFINAL HETHsYODHsKAPHsLAMEDHsMEMs",
    "NUNsSAMEKHsPEsSADHEsRESHsSHINsTAWsLESHlCOMBINING DOT ABOVEzaBELOWvTWO DOTS ABOVEzfBELOWlPUNC",
    "TUATION BARxTWO BARSzcDOTSxFOUR DOTS"]),
  (0x10FB0, ["aCHORASMIAN LETTER ALEPHsSMALL ALEPHsBETHsGIMELsDALETHsHEsWAWsCURLED WAWsZAYINsHETH",
    "sYODHsKAPHsLAMEDHsMEMsNUNsSAMEKHsAYINsPEsRESHsSHINsTAWlNUMBER ONEsTWOtHREEsFOURsTENtWENTYsON",
    "E HUNDRED"]),
  (0x10FE0, ["aELYMAIC LETTER ALEPHpBETHpGIMELpDALETHpHEpWAWpZAYINpHETHpTETHpYODHpKAPHpLAMEDHpMEM",
    "pNUNpSAMEKHpAYINpPEpSADHEpQOPHpRESHpSHINpTAWjIGATURE ZAYIN-YODH.........aBRAHMI SIGN CANDRAB",
    "INDUmANUSVARAmVISARGAmJIHVAMULIYAmUPADHMANIYAhLETTER ApAoIpIoUpUoVOCALIC RxRwLxLoEoAIoOoAUoK",
    "ApHAoGApHAoNGAoCApHAoJApHAoNYAoTTAqHAoDDAqHAoNNAoTApHAoDApHAoNAoPApHAoBApHAoMAoYAoRAoLAoVAoS",
    "HApSApAoHAoLLAoOLD TAMIL LLLAyRRAyNNNAhVOWEL SIGN AAsBHATTIPROLU AAsItIsUtUsVOCALIC RzcRzbLz",
    "cLsEsAIsOsAUiIRAMAhDANDAiOUBLE DANDAhPUNCTUATION DOTvUBLE DOTtLINEtCRESCENT BARtLOTUS....hNU",
    "MBER ONEoTWOpHREEoFOURpIVEoSIXpEVENoEIGHToNINEoTENpWENTYpHIRTYoFORTYpIFTYoSIXTYpEVENTYoEIGHT",
    "YoNINETYoONE HUNDREDsTHOUSANDhDIGIT ZEROnONEnTWOoHREEnFOURoIVEnSIXoEVENnEIGHTnNINEhSIGN OLD ",
    "TAMIL VIRAMAhLETTER OLD TAMIL SHORT EzfOhVOWEL SIGN OLD TAMIL SHORT EzjOhLETTER OLD TAMIL LL",
    "A.........hNUMBER JOINERaKAITHI SIGN CANDRABINDUmANUSVARAmVISARGAhLETTER ApAoIpIoUpUoEoAIoOo",
    "AUoKApHAoGApHAoNGAoCApHAoJApHAoNYAoTTAqHAoDDAqDHAqHAoRHAoNNAoTApHAoDApHAoNAoPApHAoBApHAoMAoY",
    "AoRAoLAoVAoSHApSApAoHAhVOWEL SIGN AAsItIsUtUsEsAIsOsAUhSIGN VIRAMAmNUKTAhABBREVIATION SIGNhE",
    "NUMERATION SIGNhNUMBER SIGNhSECTION MARKhDOUBLE SECTION MARKiANDAiOUBLE DANDAhVOWEL SIGN VOC",
    "ALIC R..........hNUMBER SIGN ABOVE..aSORA SOMPENG LETTER SAHuTAHuBAHuCAHuDAHuGAHuMAHuNGAHuLA",
    "HuNAHuVAHuPAHuYAHuRAHuHAHuKAHuJAHuNYAHuAHuEEHuIHuUHuOHuEHuMAE.......nDIGIT ZEROtONEtTWOuHREE",
    "tFOURuIVEtSIXuEVENtEIGHTtNINE......aCHAKMA SIGN CANDRABINDUmANUSVARAmVISARGAhLETTER AAoIoUoE",
    "oKAApHAAoGAApHAAoNGAAoCAApHAAoJAApHAAoNYAAoTTAAqHAAoDDAAqHAAoNNAAoTAApHAAoDAApHAAoNAAoPAApHA",
    "AoBAApHAAoMAAoYYAApAAoRAAoLAAoWAAoSAAoHAAhVOWEL SIGN AsItIsUtUsEsAIsOsAUsOIhO MARKhAU MARKhV",
    "IRAMAhMAAYYAA.hDIGIT ZEROnONEnTWOoHREEnFOURoIVEnSIXoEVENnEIGHTnNINEhSECTION MARKhDANDAiOUBLE",
    " DANDAhQUESTION MARKhLETTER LHAAhVOWEL SIGN AAsEIhLETTER VAA........aMAHAJANI LETTER AqIqUqE",
    "qOqKArHAqGArHAqCArHAqJArHAqNYAqTTAsHAqDDAsHAqNNAqTArHAqDArHAqNAqPArHAqBArHAqMAqRAqLAqVAqSAqH",
    "AqRRAjSIGN NUKTAjABBREVIATION SIGNjSECTION MARKjLIGATURE SHRI.........aSHARADA SIGN CANDRABI",
    "NDUnANUSVARAnVISARGAiLETTER AqApIqIpUqUpVOCALIC RyRxLyLpEpAIpOpAUpKAqHApGAqHApNGApCAqHApJAqH",
    "ApNYApTTArHApDDArHApNNApTAqHApDAqHApNApPAqHApBAqHApMApYApRApLAqLApVApSHAqSAqApHAiVOWEL SIGN ",
    "AAtIuItUuUtVOCALIC RzdRzcLzdLtEtAItOtAUiSIGN VIRAMAnAVAGRAHAnJIHVAMULIYAnUPADHMANIYAiOMiDAND",
    "AjOUBLE DANDAiABBREVIATION SIGNiSEPARATORjANDHI MARKjIGN NUKTAiVOWEL MODIFIER MARKiEXTRA SHO",
    "RT VOWEL MARKiSUTRA MARKiVOWEL SIGN PRISHTHAMATRA EiSIGN INVERTED CANDRABINDUiDIGIT ZEROoONE",
    "oTWOpHREEoFOURpIVEoSIXpEVENoEIGHToNINEiEKAMiSIGN SIDDHAMiHEADSTROKEiCONTINUATION SIGNiSECTIO",
    "N MARK-1v2.bINHALA ARCHAIC DIGIT ONEwTWOxHREEwFOURxIVEwSIXxEVENwEIGHTwNINEqNUMBER TENyWENTYy",
    "HIRTYxFORTYyIFTYxSIXTYyEVENTYxEIGHTYxNINETYxONE HUNDREDzcTHOUSAND...........aKHOJKI LETTER A",
    "pAoIoUoEoAIoOoAUoKApHAoGApGApHAoNGAoCApHAoJApJA.oNYAoTTAqHAoDDAqHAoNNAoTApHAoDApDDApHAoNAoPA",
    "pHAoBApBApHAoMAoYAoRAoLAoVAoSAoHAoLLAhVOWEL SIGN AAsItIsUsEsAIsOsAUhSIGN ANUSVARAmVIRAMAmNUK",
    "TAmSHADDAhDANDAiOUBLE DANDAhWORD SEPARATORhSECTION MARKhDOUBLE SECTION MARKhABBREVIATION SIG",
    "NhSIGN SUKUN"]),
  (0x11280, ["aMULTANI LETTER ApIpUpEpKAqHApGA.qHA.pCAqHApJAqJA.pNYApTTArHApDDArDArHApNNApTAqHApD",
    "AqHApNApPAqHApBA.qHApMApYApRApLApVApSApHApRRAqHAiSECTION MARK......aKHUDAWADI LETTER AsArIsI",
    "rUsUrErAIrOrAUrKAsHArGAsGAsHArNGArCAsHArJAsJAsHArNYArTTAtHArDDAtDArRRArDDHArNNArTAsHArDAsHAr",
    "NArPAsHArBAsBAsHArMArYArRArLArVArSHAsArHAkSIGN ANUSVARAkVOWEL SIGN AAvIwIvUwUvEvAIvOvAUkSIGN",
    " NUKTApVIRAMA.....kDIGIT ZEROqONEqTWOrHREEqFOURrIVEqSIXrEVENqEIGHTqNINE......aGRANTHA SIGN C",
    "OMBINING ANUSVARA ABOVEoANDRABINDUnANUSVARAnVISARGA.iLETTER AqApIqIpUqUpVOCALIC RxL..pEEpAI.",
    ".pOOpAUpKAqHApGAqHApNGApCAqHApJAqHApNYApTTArHApDDArHApNNApTAqHApDAqHApNA.pPAqHApBAqHApMApYAp",
    "RA.pLAqLA.pVApSHAqSAqApHA.aCOMBINING BINDU BELOWaGRANTHA SIGN NUKTAnAVAGRAHAiVOWEL SIGN AAtI",
    "uItUuUtVOCALIC RzdR..tEEtAI..tOOtAUiSIGN VIRAMA..iOM......iAU LENGTH MARK.....iSIGN PLUTAiLE",
    "TTER VEDIC ANUSVARAvDOUBLE ANUSVARAqOCALIC RRxLLiVOWEL SIGN VOCALIC LzdL..aCOMBINING GRANTHA",
    " DIGIT ZEROyONEyTWOzaHREEyFOURzaIVEySIX...sLETTER AzaKAzaNAzaVIzaPA"]),
  (0x11400, ["aNEWA LETTER AnAmInImUnUmVOCALIC RvRuLvLmEmAImOmAUmKAnHAmGAnHAmNGAoHAmCAnHAmJAnHAmN",
    "YAoHAmTTAoHAmDDAoHAmNNAmTAnHAmDAnHAmNAnHAmPAnHAmBAnHAmMAnHAmYAmRAnHAmLAnHAmWAmSHAnSAnAmHAfVO",
    "WEL SIGN AAqIrIqUrUqVOCALIC RzaRyLzaLqEqAIqOqAUfSIGN VIRAMAkCANDRABINDUkANUSVARAkVISARGAkNUK",
    "TAkAVAGRAHAkFINAL ANUSVARAfOMfSIDDHIfDANDAgOUBLE DANDAfCOMMAfGAP FILLERfABBREVIATION SIGNfDI",
    "GIT ZEROlONElTWOmHREElFOURmIVElSIXmEVENlEIGHTlNINEgOUBLE COMMAfPLACEHOLDER MARK.fINSERTION S",
    "IGNfSANDHI MARKfLETTER VEDIC ANUSVARAfSIGN JIHVAMULIYAkUPADHMANIYA"]),
  (0x11480, ["aTIRHUTA ANJIiLETTER AqApIqIpUqUpVOCALIC RyRxLyLpEpAIpOpAUpKAqHApGAqHApNGApCAqHApJA",
    "qHApNYApTTArHApDDArHApNNApTAqHApDAqHApNApPAqHApBAqHApMApYApRApLApVApSHAqSAqApHAiVOWEL SIGN A",
    "AtIuItUuUtVOCALIC RzdRzcLzdLtEtSHORT EtAItOtSHORT OtAUiSIGN CANDRABINDUnANUSVARAnVISARGApRAM",
    "AnNUKTAnAVAGRAHAiGVANGiABBREVIATION SIGNiOM........iDIGIT ZEROoONEoTWOpHREEoFOURpIVEoSIXpEVE",
    "NoEIGHToNINE"]),
  (0x11580, ["aSIDDHAM LETTER AqApIqIpUqUpVOCALIC RyRxLyLpEpAIpOpAUpKAqHApGAqHApNGApCAqHApJAqHApN",
    "YApTTArHApDDArHApNNApTAqHApDAqHApNApPAqHApBAqHApMApYApRApLApVApSHAqSAqApHAiVOWEL SIGN AAtIuI",
    "tUuUtVOCALIC RzdR..tEtAItOtAUiSIGN CANDRABINDUnANUSVARAnVISARGApRAMAnNUKTAnSIDDHAMiDANDAjOUB",
    "LE DANDAiSEPARATOR DOTsBARiREPETITION MARK-1y2y3iEND OF TEXT MARKiSECTION MARK WITH TRIDENT ",
    "AND U-SHAPED ORNAMENTSznDOTTED CRESCENTSzbRAYS AND DOTTED CRESCENTSzrDOUBLE CRESCENTSzrTRIPL",
    "E CRESCENTSvDOUBLE RINGzh WITH RAYSvWITH DOUBLE CRESCENTSzbTRIPLE CRESCENTSzbQUADRUPLE CRESC",
    "ENTSzbSEPTUPLE CRESCENTSzbCIRCLES AND RAYSznTWO ENCLOSURESznFOUR ENCLOSURESiLETTER THREE-CIR",
    "CLE ALTERNATE IqWO-CIRCLE ALTERNATE IzmIpALTERNATE UiVOWEL SIGN ALTERNATE UzfU"]),
  (0x11600, ["aMODI LETTER AnAmInImUnUmVOCALIC RvRuLvLmEmAImOmAUmKAnHAmGAnHAmNGAmCAnHAmJAnHAmNYAm",
    "TTAoHAmDDAoHAmNNAmTAnHAmDAnHAmNAmPAnHAmBAnHAmMAmYAmRAmLAmVAmSHAnSAnAmHAmLLAfVOWEL SIGN AAqIr",
    "IqUrUqVOCALIC RzaRyLzaLqEqAIqOqAUfSIGN ANUSVARAkVISARGAmRAMAkARDHACANDRAfDANDAgOUBLE DANDAfA",
    "BBREVIATION SIGNfSIGN HUVA...........fDIGIT ZEROlONElTWOmHREElFOURmIVElSIXmEVENlEIGHTlNINE..",
    "....cNGOLIAN BIRGA WITH ORNAMENTkROTATED BIRGAkDOUBLE BIRGA WITH ORNAMENTkTRIPLE BIRGA WITH ",
    "ORNAMENTkBIRGA WITH DOUBLE ORNAMENTkROTATED BIRGA WITH ORNAMENTzeDOUBLE ORNAMENTkINVERTED BI",
    "RGAy WITH DOUBLE ORNAMENTkSWIRL BIRGAv WITH ORNAMENTzcDOUBLE ORNAMENTkTURNED SWIRL BIRGA WIT",
    "H DOUBLE ORNAMENT"]),
  (0x11680, ["aTAKRI LETTER AoAnIoInUoUnEnAInOnAUnKAoHAnGAoHAnNGAnCAoHAnJAoHAnNYAnTTApHAnDDApHAnN",
    "NAnTAoHAnDAoHAnNAnPAoHAnBAoHAnMAnYAnRAnLAnVAnSHAoAnHAnRRAgSIGN ANUSVARAlVISARGAgVOWEL SIGN A",
    "ArIsIrUsUrErAIrOrAUgSIGN VIRAMAlNUKTAgLETTER ARCHAIC KHAgABBREVIATION SIGN......gDIGIT ZEROm",
    "ONEmTWOnHREEmFOURnIVEmSIXnEVENmEIGHTmNINE"]),
  (0x11700, ["aAHOM LETTER KAnHAmNGAnAmTAmALTERNATE TAmPAnHAmBAmMAmJAmCHAmTHAmRAmLAmSAmNYAmHAmAmD",
    "AnHAmGAmALTERNATE GAmGHAmBHAmJHAmALTERNATE BA..fCONSONANT SIGN MEDIAL LAzcRAzcLIGATING RAfVO",
    "WEL SIGN ArAqIrIqUrUqEqAWqOqAIrMfSIGN KILLER....fDIGIT ZEROlONElTWOmHREElFOURmIVElSIXmEVENlE",
    "IGHTlNINEfNUMBER TENnWENTYfSIGN SMALL SECTIONlECTIONkRULAIgYMBOL VIfLETTER CAmTTAoHAmDDAoHAm",
    "NNAmLLA"]),
  (0x11800, ["aDOGRA LETTER AoAnIoInUoUnEnAInOnAUnKAoHAnGAoHAnNGAnCAoHAnJAoHAnNYAnTTApHAnDDApHAnN",
    "NAnTAoHAnDAoHAnNAnPAoHAnBAoHAnMAnYAnRAnLAnVAnSHAoSAoAnHAnRRAgVOWEL SIGN AArIsIrUsUrVOCALIC R",
    "zbRrErAIrOrAUgSIGN ANUSVARAlVISARGAnRAMAlNUKTAgABBREVIATION SIGN"]),
  (0x118A0, ["aWARANG CITI CAPITAL LETTER NGAAzcAzcWIzcYUzdAzdOzcIIzcUUzcEzcOzcANGzcGAzcKOzcENYzc",
    "YUJzcUCzcENNzcODDzcTTEzcNUNGzcDAzcATzdMzcBUzcPUzcHIYOzdOLOzeRRzdARzcSSUUzdIIzcVIYOmSMALL LET",
    "TER NGAAzaAzaWIzaYUzbAzbOzaIIzaUUzaEzaOzaANGzaGAzaKOzaENYzaYUJzaUCzaENNzaODDzaTTEzaNUNGzaDAz",
    "aATzbMzaBUzaPUzaHIYOzbOLOzcRRzbARzaSSUUzbIIzaVIYOmDIGIT ZEROsONEsTWOtHREEsFOURtIVEsSIXtEVENs",
    "EIGHTsNINEmNUMBER TENuWENTYuHIRTYtFORTYuIFTYtSIXTYuEVENTYtEIGHTYtNINETY............mOMaDIVES",
    " AKURU LETTER AuAtIuItUuUtE..tO..tKAuHAtGAuHAtNGAtCAuHAtJA.tNYAtTTA.tDDAvHAtNNAtTAuHAtDAuHAt",
    "NAtPAuHAtBAuHAtMAtYAuYAtRAtLAtVAtSHAuSAuAtHAtLLAtZAmVOWEL SIGN AAxIyIxUyUxE.xAIxO..mSIGN ANU",
    "SVARArCANDRABINDUrHALANTAmVIRAMAmPREFIXED NASAL SIGNmMEDIAL YAmINITIAL RAmMEDIAL RAmSIGN NUK",
    "TAmDOUBLE DANDAmGAP FILLERmEND OF TEXT MARK.........mDIGIT ZEROsONEsTWOtHREEsFOURtIVEsSIXtEV",
    "ENsEIGHTsNINE"]),
  (0x119A0, ["aNANDINAGARI LETTER AuAtIuItUuUtVOCALIC RzdR..tEtAItOtAUtKAuHAtGAuHAtNGAtCAuHAtJAuH",
    "AtNYAtTTAvHAtDDAvHAtNNAtTAuHAtDAuHAtNAtPAuHAtBAuHAtMAtYAtRAtLAtVAtSHAuSAuAtHAtLLAtRRAmVOWEL ",
    "SIGN AAxIyIxUyUxVOCALIC RzhR..xExAIxOxAUmSIGN ANUSVARArVISARGAtRAMArAVAGRAHArSIDDHAMmHEADSTR",
    "OKEmVOWEL SIGN PRISHTHAMATRA E"]),
  (0x11A00, ["aZANABAZAR SQUARE LETTER ArVOWEL SIGN IzdUEzezdEzdOEzezdAIzeUzdREVERSED IxLENGTH MA",
    "RKrLETTER KAzaHAyGAzaHAyNGAyCAzaHAyJAyNYAyTTAzbHAyDDAzbHAyNNAyTAzaHAyDAzaHAyNAyPAzaHAyBAzaHA",
    "yMAyTSAzbHAyDZAzbHAyZHAzaAy-AyYAyRAyLAyVAySHAzaSAzaAyHAyKSSArFINAL CONSONANT MARKrSIGN VIRAM",
    "AwCANDRABINDUzi WITH ORNAMENTzd WITH ORNAMENTwANUSVARAwVISARGArCLUSTER-INITIAL LETTER RAzaFI",
    "NAL LETTER YAznRAznLAznVArINITIAL HEAD MARKrCLOSING HEAD MARKrMARK TSHEGwSHADwDOUBLE SHADwLO",
    "NG TSHEGrINITIAL DOUBLE-LINED HEAD MARKrCLOSING DOUBLE-LINED HEAD MARKrSUBJOINER........aSOY",
    "OMBO LETTER AiVOWEL SIGN ItUEutEtOuEtAIuUtVOCALIC RzcLoLENGTH MARKiLETTER KAqHApGAqHApNGApCA",
    "qHApJAqHApNYApTTArHApDDArHApNNApTAqHApDAqHApNApPAqHApBAqHApMApTSArHApDZApZHAqAp-ApYApRApLApV",
    "ApSHAqSAqApHApKSSAiSIGN JIHVAMULIYAnUPADHMANIYAiCLUSTER-INITIAL LETTER RAzgLAzgSHAzhAiFINAL ",
    "CONSONANT SIGN GzeKzeNGzeDzeNzeBzeMzeRzeLzeSHzfze-AiSIGN ANUSVARAnVISARGAiGEMINATION MARKiSU",
    "BJOINERiMARK TSHEGnSHADnDOUBLE SHADnPLUTAiHEAD MARK WITH MOON AND SUN AND TRIPLE FLAMEzpFLAM",
    "EzkiTERMINAL MARK-1w2.............aCANADIAN SYLLABICS NATTILIK HIzfIzeOzfOzeAzfAzdSHRIzhIzgO",
    "zhOzgAzhAtSPEvIvOvAaPAU CIN HAU LETTER PAtKAtLAtMAtDAtZAtVAtNGAtHAtGAtKHAtSAtBAtCAtTAuHAtNAt",
    "PHAtRAtFAtCHAtAtEtItOtUuAtIAtFINAL PzaKzaTzaMzaNzaLzaWzaNGzaYmRISING TONE LONGxmSANDHI GLOTT",
    "AL STOPmRISING TONE LONG FINALyFINALmSANDHI GLOTTAL STOP FINALtTONE LONGxx LONG FINALyFINALm",
    "MID-LEVEL TONEmGLOTTAL STOP VARIANTmMID-LEVEL TONE LONG FINALzcFINALmLOW-FALLING TONE LONGzd",
    "mGLOTTAL STOPmLOW-FALLING TONE LONG FINALzeFINALmGLOTTAL STOP FINAL"]),
  (0x11C00, ["aBHAIKSUKI LETTER AsArIsIrUsUrVOCALIC RzbRzaL.rErAIrOrAUrKAsHArGAsHArNGArCAsHArJAsH",
    "ArNYArTTAtHArDDAtHArNNArTAsHArDAsHArNArPAsHArBAsHArMArYArRArLArVArSHAsSAsArHAkVOWEL SIGN AAv",
    "IwIvUwUvVOCALIC RzfRzeL.vEvAIvOvAUkSIGN CANDRABINDUpANUSVARApVISARGArRAMApAVAGRAHAkDANDAlOUB",
    "LE DANDAkWORD SEPARATORkGAP FILLER-1v2..........kDIGIT ZEROqONEqTWOrHREEqFOURrIVEqSIXrEVENqE",
    "IGHTqNINEkNUMBER ONErTWOsHREErFOURsIVErSIXsEVENrEIGHTrNINErTENsWENTYsHIRTYrFORTYsIFTYrSIXTYs",
    "EVENTYrEIGHTYrNINETYkHUNDREDS UNIT MARK...aMARCHEN HEAD MARKiMARK SHADiLETTER KAqHApGApNGApC",
    "AqHApJApNYApTAqHApDApNApPAqHApBApMApTSArHApDZApWApZHAqAp-ApYApRApLApSHAqApHApA..iSUBJOINED L",
    "ETTER KAzbHAzaGAzaNGAzaCAzbHAzaJAzaNYAzaTAzbHAzaDAzaNAzaPAzbHAzaBAzaMAzaTSAzcHAzaDZAzaWAzaZH",
    "AzbA.zaYAzaRAzaLAzaSHAzbAzaHAzaAiVOWEL SIGN AAtItUtEtOiSIGN ANUSVARAnCANDRABINDU"]),
  (0x11D00, ["aMASARAM GONDI LETTER AwAvIwIvUwUvE.vAIvO.vAUvKAwHAvGAwHAvNGAvCAwHAvJAwHAvNYAvTTAxH",
    "AvDDAxHAvNNAvTAwHAvDAwHAvNAvPAwHAvBAwHAvMAvYAvRAvLAvVAvSHAwSAwAvHAvLLAvKSSAvJNYAvTRAoVOWEL S",
    "IGN AAzaIzbIzaUzbUzaVOCALIC R...zaE.zaAIzaO.zaAUoSIGN ANUSVARAtVISARGAtNUKTAtCANDRAtHALANTAo",
    "VIRAMAoREPHApA-KARA........oDIGIT ZEROuONEuTWOvHREEuFOURvIVEuSIXvEVENuEIGHTuNINE......aGUNJA",
    "LA GONDI LETTER AwAvIwIvUwU.vEEvAI.vOOvAUvYAvVAvBAwHAvMAvKAwHAvTAwHAvLAvGAwHAvDAwHAvNAvCAwHA",
    "vTTAxHAvLLAvJAwHAvDDAxHAvNGAvPAwHAvHAvRAvSAoVOWEL SIGN AAzaIzbIzaUzbU.zaEEzaAI.zaOOzaAUoSIGN",
    " ANUSVARAtVISARGAoVIRAMAoOM.......oDIGIT ZEROuONEuTWOvHREEuFOURvIVEuSIXvEVENuEIGHTuNINE"]),
  (0x11EE0, ["aMAKASAR LETTER KApGApNGApPApBApMApTApDApNApCApJApNYApYApRApLApVApSApAiANGKAiVOWEL ",
    "SIGN ItUtEtOiPASSIMBANGiEND OF SECTION"]),
  (0x11FB0, ["aLISU LETTER YHA...............aTAMIL FRACTION ONE THREE-HUNDRED-AND-TWENTIETHtONE-",
    "HUNDRED-AND-SIXTIETHtEIGHTIETHtSIXTY-FOURTHtFORTIETHtTHIRTY-SECONDpTHREE EIGHTIETHSvSIXTY-FO",
    "URTHSpONE TWENTIETHtSIXTEENTH-1ze2tTENTHtEIGHTHpTHREE TWENTIETHSvSIXTEENTHSpONE FIFTHtQUARTE",
    "RtHALF-1y2pTHREE QUARTERSpDOWNSCALING FACTOR KIIZHgSIGN NELlCEVITUlAAZHAAKKUlUZHAKKUlMUUVUZH",
    "AKKUlKURUNIlPATHAKKUlMUKKURUNIlKAACUlPANAMmONlVARAAKANlPAARAMlKUZHIlVELIgWET CULTIVATION SIG",
    "NgDRY CULTIVATION SIGNgLAND SIGNgSALT PAN SIGNgTRADITIONAL CREDIT SIGNsNUMBER SIGNgCURRENT S",
    "IGNgAND ODD SIGNgSPENT SIGNgTOTAL SIGNgIN POSSESSION SIGNgSTARTING FROM SIGNhIGN MUTHALIYAlV",
    "AKAIYARAA.............gPUNCTUATION END OF TEXTaCUNEIFORM SIGN Aq TIMES AxBADxGAN2 TENUxHAxIG",
    "IxLAGAR GUNUxMUSHxSAGq2qBr TIMES ASH2yDUN3 GUNUyGALzbN2 TENUyHAyIGI GUNUzaMINyLAGABySHESHyU ",
    "PLUS U PLUS UsGUNUr2s TIMES BALAGzaGAN2 TENUzaME PLUS ENzaSHA3zaTAK4qDqKr TIMES ERIN2ySHITA ",
    "PLUS GISHqLr TIMES ALyDIM2yGISHyHAyKAD3zaIySHEyUSHrANrEPHqMARt TIMES SHEqNr OVER ANsTHREE TI",
    "MESsPLUS NAGA OPPOSING AN PLUS NAGAzdSQUAREDrSHEqPINqRADt TIMES KURrKABqSAL2rHs ZIDA TENUtKA",
    "BA TENUtOVER ASH TUG2 OVER TUG2 TUG2 OVER TUG2 PAPzdOVER ASHzl CROSSING ASH OVER ASH OVER AS",
    "Hs2sGABpBArDrG3rHAR2rLs OVER BALsAGrRsA2qIr TIMES AyGARyIGI GUNUqUr OVER BU ABzbUNsCROSSING ",
    "BUrLUGu OVER BULUGrRs2pDArGs KISIM5 TIMES A PLUS MASHziMARzhBALAGziIzhGAzj PLUS MASHziIzjR2z",
    "iUDzhHAzhIRzj PLUS LUzhKAKzhLAziUzj PLUS MASH2zjMzhNEzhPAP PLUS PAPzhSIzhTAK4zhU2 PLUS GIR2z",
    "iSHrMrRsA3t4qIrBrMs TIMES SHEs2rNs KASKAL U GUNU DISHrSHqUr OVER DUsGUNUsSHESHIGrBs TIMES ES",
    "H2s2rGsUDrHrNs3t GUNUy GUNUs4rR2pEq TIMES PAPrOVER E NUN OVER NUNq2r TIMES A PLUS HA PLUS DA",
    "yGARyMIySALzaHEyUqDINqGIRqLqNr TIMES GAN2zd TENUyMEsCROSSING ENsOPPOSING ENsSQUAREDqRENrIN2q",
    "SH2qZENt TIMES Azc PLUS LALzl TIMES LALzcNzbBADzbDUN3 GUNUzk GUNUzbHAzd GUNUzbIGI GUNUzbKASK",
    "ALzh SQUAREDzcU3zbLAzdL TIMES LALzcIzcUzbU2zcDpGAr GUNUr2s TIMES A PLUS DA PLUS HAzhHAzhIGIz",
    "bB2 TENU PLUS TABzbNzbSHzd2 PLUS GALzaBADzcR PLUS RAzbURzd PLUS RAzaDAzbIzcM TIMES SHEzbUBza",
    "ELzc PLUS LAzbNzc TIMES GAN2 TENUzaGAN2 TENUzcRzbIzc4zd PLUS AzcR2 PLUS SUzaHA PLUS LU PLUS ",
    "ESH2zcLzd PLUS LAzbI PLUS LIzbUB2zaIGI GUNUzbSH PLUS HU PLUS ASHzaKAKzcSKALzbIDzd PLUS LALzb",
    "U3 PLUS ANzaLAzaME PLUS ENzbIzaNUNzd OVER NUNzaPAzaSALzcRzbHEzd PLUS TURzcIDzbUMzaTAK4zaUzbD",
    "zc PLUS DUtOVER GA2rBAt CROSSING GABArDs OVER GAD GAR OVER GARrLs GAD OVER GAD GAR OVER GARs",
    "AMrMrNs2t TENUuOVER GAN2uCROSSING GAN2rRs3rSHANqESHTINw TIMES KURqIr TIMES EyUsCROSSING GIr4",
    "s OVER GI4tCROSSING GI4rDIMrR2t GUNUs3t TIMES A PLUS IGIzbGAN2 TENUzbIGIzbLU PLUS IGIzbPArSA",
    "LsHt CROSSING GISHuTIMES BADzbTAK4vENUqUr CROSSING GUr2s TIMES KAKzd TIMES IGI GUNUzaNUNzaSA",
    "L PLUS TUG2tGUNUrDs TIMES A PLUS KURzaKURtOVER GUD LUGALrLrMs TIMES SHErRs7sUNtSHpHAr TENUsG",
    "UNUrLqIr TIMES ASHzc2yBADyDISHyGADyKINyNUNySHEyUqUrB2t TIMES ANzbHALzbKASKALzbLISHzbUDrL2pIq",
    " AqBqDIMt OVER IDIM BURzfSQUAREDqGrIs DIBtRItOVER IGI SHIR OVER SHIR UD OVER UDtGUNUqLr TIME",
    "S GAN2 TENUr2qMr TIMES TAK4sCROSSING IMsOPPOSING IMsSQUAREDrINqNqRqSHpKAr TIMES AzaDzb PLUS ",
    "KU3zaSH2yBADzbLAGzbRzaIyERIN2zaSH2yGAzbLzbN2 TENUzbRzc PLUS SHA3 PLUS AzaIzbR2zbSH PLUS SARz",
    "eCROSSING GISHzaUzbR7yIGIzaMyKAKzaIzbDyLIzaUyMEzb PLUS DUzhGIzhTEzaIzb PLUS NUNUZyNEzaUNyPIy",
    "RUySAzbRzaHAzbEzbIDzbUzaIGzaUHURyTARyUza2zaDzaMUM TIMES PAzaSHyZIr2s CROSSING KA2rBrD2s3s4s5",
    "t OVER KAD5rKs TIMES IGI GUNUrLs TIMES BADtCROSSING KALrM2s4rSKALv LAGAB TIMES U OVER LAGAB ",
    "TIMES UwOVER KASKAL LAGAB TIMES U OVER LAGAB TIMES UqESH2qIr TIMES BADyUzaDrDrNrSALsHsIM5v O",
    "VER KISIM5qUr OVER HI TIMES ASH2 KU OVER HI TIMES ASH2r3r4s VARIANT FORMr7rLs GUNUrNrRs OPPO",
    "SING KURrSHU2qWU318pLArGABu TIMES Azd PLUS DA PLUS HAzjGARzjLALzdLzdNzdSH ZIDA TENUzcBADzdIz",
    "cDARzcENzcGAzeRzdUDzf PLUS GUDzcHAzeLzdI TIMES NUNzcIGI GUNUzdMze PLUS HAzkLUzcKIzeNzdU3zeLz",
    "f PLUS HI PLUS AzcLAGABzdISHzdUzeLzcMEze PLUS ENzdUSHzcNEzcSHE PLUS SUMzeITA PLUS GISH PLUS ",
    "ERIN2zsTENUzeU2zg PLUS SHU2zdUMzcTAGzeK4zdE PLUS A PLUS SU PLUS NAzcUzd PLUS AzjU PLUS Uzd2 ",
    "PLUS ASHzdDzdSHvSQUAREDtRu TIMES SHEzf PLUS SUMvGUNUza OVER LAGAR GUNU SHErHSHUrLs TIMES LAL",
    "rMs TIMES KURzd PLUS RUqIrLrMMU2rSHqUr TIMES BADr2s TIMES ALzaBADzaESH2ze TENUzaGAN2 TENUzaH",
    "I TIMES BADzaIMzaKAD2zd3ze PLUS ASHzbIzaLA PLUS ASHzcGABzaME PLUS ENzaNEzbUzaSI PLUS ASHzcK2",
    " PLUS BUzaTUG2uENUtCROSSING LU2tOPPOSING LU2tSQUAREDuHESHIGr3rGALu OVER LUGALwPPOSING LUGALv",
    "SHESHIGrHrLrMs OVER LUMzc GAR OVER GARpMAr TIMES TAK4sGUNUr2rHrRrSHt2qErSqIrNqUr OVER MUrGs ",
    "GUNUrNSUBrRGU2rSHt TIMES AzbKURzbZAuOVER MUSHze TIMES A PLUS NAuCROSSING MUSHt3u TIMES Azd P",
    "LUS DIzcDIvGUNUpNAr2rGAt INVERTEDuTIMES SHU TENUuOPPOSING NAGAtRrM NUTILLUss2qEr TIMES AyUDs",
    "SHESHIGqIr TIMES Er2rMs TIMES GAN2 TENUzcR PLUS GAN2 TENUrNDA2v TIMES ANzeSHzg PLUS ASHzdGUD",
    "zdME PLUS GAN2 TENUzdNEzeUNzdSHEzg PLUS A ANznSHzp PLUS ASHzdU2 PLUS ASHzeSHrSAGqUr11rNs LAG",
    "AR TIMES GARzgMASHzgSALzj OVER NUN LAGAR TIMES SALzgUSHtTENUtOVER NUNtCROSSING NUNzg LAGAR O",
    "VER LAGARsUZu AB2 TIMES ASHGABzgBIzgDUGzgGUDzgIGI GUNUzgKAD3zgLAzgNEzgSILA3zgU2vKISIM5 TIMES",
    " BIzl UpPArDrNrPqESH2qIr TIMES AzaByBIzaUyEyIzaByUza2sCROSSING PIrRIGu TIMES KALzcUDzcZAvOPP",
    "OSING PIRIGpRArBqIqUpSArG NUTILLUss TIMES AzaDUzcBzaHAzaKAKzbURzaLUMzaMIzaNUNzaSALzbHIDzaTAB",
    "zaU2zbBzbMzbRzbSHtOVER SAGtGUNUrLs LAGAB TIMES ASH2rNGA2rRqHAs3t TIMES AzbBADzbGISHzbNEzbSHU",
    "2zbTURzbUzc PLUS As6sB6sR2rEs HUtOVER SHE GAD OVER GAD GAR OVER GARzdTAB OVER TAB GAR OVER G",
    "ARsG9sNsSHu2uLAMrIDt TIMES AzbIMsMt TIMES AzbBALzcULUGzbDINzbGARzbIGIze GUNUzbKUSHU2zbLULzbM",
    "UGzbSALsNIGsRt TENUuOVER SHIR BUR OVER BURsTArUs OVER INVERTED SHUs2sBURqIr GUNUrGs4t OVER S",
    "IG4 SHU2rK2rLA3qUr OVER SUrDs2rHURrMsASHrRs9pTAr ASTERISKsTIMES HIyMIsGUNUrBs OVER TAB NI OV",
    "ER NI DISH OVER DISHtSQUAREDrGs TIMES BIzaGUDzaSHEzcUzaTUG2zaUDrK4rRqEr GUNUqIr TENUrLrRs TI",
    "MES TAK4tOVER TIRzc GAD OVER GAD GAR OVER GARqUrG2rKrMrRs OVER TUR ZA OVER ZApUq GUDrU UrOVE",
    "R U PA OVER PA GAR OVER GARySUR OVER SURyU REVERSED OVER U REVERSEDq2qBqDr KUSHU2sTIMES BADy",
    "MIyU PLUS U PLUS Uzo GUNUsGUNUsSHESHIGza TIMES BADrUGqMr TIMES LAGAByME PLUS DAySHA3yUrBINrU",
    "Mt TIMES KASKALzbPAqNr GUNUqRr CROSSING URsSHESHIGr2s TIMES A PLUS HAzhNAzbLzaHAzaNUNzaU2zc ",
    "PLUS ASHziBIr4rIs3rUs TIMES AzbSHGABzaBARzaDUNzaGAzcLzcN2 TENUzcRzbUzaHAzaIGIzbMzbSHzaKIzaLU",
    "MzaMINzaPAzaSHEzbIG4zaTUzaU PLUS GUDzbDzbRUDAsDAu TIMES UqSHs TIMES AzaKUzcRzaTAK4sXs2sUMXqT",
    "UKIqZ3s TIMES KASKALrUpZAr TENUsSQUARED TIMES KURrGrMXqE2qIr OVER ZIr3rBs KABA TENUrGrZ2qUr5",
    "s TIMES ArBURrMpKAP ELAMITEpAB TIMES NUNr2 TIMES AqMAR TIMES KUGpDAG KISIM5 TIMES U2 PLUS MA",
    "SHs3qISH PLUS SHUqUB TIMES SHEpEZEN TIMES GUDzbSHEpGA2 TIMES AN PLUS KAK PLUS AzbSH2qE22qIGp",
    "HUSHpKA TIMES ANSHEzaSH3yGISHzaUDyHI TIMES ASH2yLUMyPAySHULyTUyUR2pLAGAB TIMES GIqU2 SHESHIG",
    " TIMES BADtTIMES ESH2 PLUS LALzaSHUpMESHqUSH3 TIMES ZApNA4qINs9sDA2 TIMES BALzdGIqU11 ROTATE",
    "D NINETY DEGREESpPESH2 ASTERISKqIR2pSAG TIMES IGI GUNUpTI2pUM TIMES MEq U"]),
  (0x12400, ["aCUNEIFORM NUMERIC SIGN TWO ASHyHREE ASHxFOUR ASHyIVE ASHxSIX ASHyEVEN ASHxEIGHT AS",
    "HxNINE ASHxTHREE DISHxFOUR DISHyIVE DISHxSIX DISHyEVEN DISHxEIGHT DISHxNINE DISHxFOUR UyIVE ",
    "UxSIX UyEVEN UxEIGHT UxNINE UxONE GESH2xTWO GESH2yHREE GESH2xFOUR GESH2yIVE GESH2xSIX GESH2y",
    "EVEN GESH2xEIGHT GESH2xNINE GESH2xONE GESHUxTWO GESHUyHREE GESHUxFOUR GESHUyIVE GESHUxTWO SH",
    "AR2yHREE SHAR2zj VARIANT FORMxFOUR SHAR2yIVE SHAR2xSIX SHAR2yEVEN SHAR2xEIGHT SHAR2xNINE SHA",
    "R2xONE SHARUxTWO SHARUyHREE SHARUzj VARIANT FORMxFOUR SHARUyIVE SHARUxSHAR2 TIMES GAL PLUS D",
    "ISHztMINxONE BURUxTWO BURUyHREE BURUzi VARIANT FORMxFOUR BURUyIVE BURUxTHREE VARIANT FORM ES",
    "H16zu21xFOUR VARIANT FORM LIMMUzv4zv AzwBxSIX VARIANT FORM ASH9yEVEN VARIANT FORM IMIN3zv Az",
    "wBxEIGHT VARIANT FORM USSUzv3xNINE VARIANT FORM ILIMMUzw3zw4zw AxTWO ASH TENUyHREE ASH TENUx",
    "FOUR ASH TENUyIVE ASH TENUxSIX ASH TENUxONE BAN2xTWO BAN2yHREE BAN2xFOUR BAN2zh VARIANT FORM",
    "yIVE BAN2zh VARIANT FORMxNIGIDAMINzeESHxONE ESHE3xTWO ESHE3xONE THIRD DISHxTWO THIRDS DISHxF",
    "IVE SIXTHS DISHxONE THIRD VARIANT FORM AxTWO THIRDS VARIANT FORM AxONE EIGHTH ASHzcQUARTER A",
    "SHyLD ASSYRIAN ONE SIXTHzpQUARTERyNE QUARTER GURzcHALF GURxELAMITE ONE THIRDzgTWO THIRDSzgFO",
    "RTYzhIFTYxFOUR U VARIANT FORMyIVE U VARIANT FORMxSIX U VARIANT FORMyEVEN U VARIANT FORMxEIGH",
    "T U VARIANT FORMxNINE U VARIANT FORM.kPUNCTUATION SIGN OLD ASSYRIAN WORD DIVIDERzcVERTICAL C",
    "OLONzcDIAGONAL COLONzlTRICOLONzlQUADCOLON...........kSIGN AB TIMES NUN TENUySHU2qD TIMES ESH",
    "2pBAD TIMES DISH TENUrHAR2 TIMES AB2zdNIzdZAqU OVER BU TIMES NA2pDA TIMES TAK4rG TIMES KURqI",
    "M TIMES IGIzaU U Us2 TIMES UDqUG TIMES ANSHEzbSHzd AT LEFTzaDINzbUNzaERIN2zaGAzbIzcR2 GUNUzc",
    "SHzaHAzbIzaIGI GUNUzaKASKALzbURzcSHU2zg PLUS KASKALzaLAK-020zcMzd TIMES KURzbUH PLUS GISHzaM",
    "ASHzbESzbIzaNIzaPIzaSHEzbI GUNUpE2 TIMES KURyPAPqRIN2 XqSH2 CROSSING ESH2qZEN SHESHIG TIMES ",
    "ASHzjHIzjIGI GUNUzjLAzlLzjMEzlSzjSUuTIMES SUpGA2 TIMES BAHAR2zaDIM GUNUzbUG TIMES IGI GUNUzk",
    "KASKALzaERENzaGAzcR PLUS DIzjNEzaHA PLUS AzaKUSHU2 PLUS KASKALzaLAMzd TIMES KURzbUHzaMUSHzaN",
    "Ezc PLUS E2ziGIzaSHIMzaZIZ2rBA ROTATED NINETY DEGREESqESHTIN TIMES UqISH TIMES GISH CROSSING",
    " GISHqU2 TIMES IGI GUNUrD PLUS GISH TIMES TAK4pHA TENU GUNUqI TIMES ASH OVER HI TIMES ASHpKA",
    " TIMES BUyKAyU U UzaRpLAGAB TIMES ZU OVER ZUrK-003u21v5u30u50v1u62u79 OVER LAK-079 GUNUu80v1",
    " OVER LAK-081u92t130u42t210v9u20v5v8u38u65v6t343v7v8u83v4u90t441v9w TIMES GUzeIGIzePAP PLUS ",
    "LU3znPAP PLUS LU3zeU2 PLUS BAu50v7u70u83u90v2v3v5t550t608u17w TIMES ASHzeBADzeDUN3 GUNU GUNU",
    "zeKU3zeLAzeTARzfEzeU2zfDzfRUDAu36u48w TIMES DUBzeGAzeIGIzh GUNUzeNIzePAP PLUS PAP PLUS LU3ze",
    "SHESH PLUS KIzeUDzfRUDAt724u49qU2 GUNU TIMES ASHtTIMES DISHzaHALzaPAPzd PLUS PAP PLUS LU3zaT",
    "AK4pMI PLUS ZA7qUSH OVER MUSH TIMES GAzlKAKpNINDA2 TIMES DIM GUNUzdGISHzeULzdHIzdKESH2zdLAK-",
    "050zdMASHzdPAP PLUS PAPzdUze PLUS UzeRUDApSAG GUNU TIMES HAtTIMES ENzaSHE AT LEFTzaTAK4qHA6 ",
    "TENUrE OVER SHEtPLUS HUB2yNAM2ySARrU2 PLUS DUG TIMES NIzaE2 TIMES ANqI TIMES TAK4pTAK4 PLUS ",
    "SAGqUM TIMES GAN2 TENUzaTHREE DISHpUR2 INVERTEDtTIMES UDrU TIMES DARA3zaLAK-668zbU3pZA7qU OV",
    "ER ZU PLUS SARr5 TIMES THREE DISH TENU"]),
  (0x12F90, ["aCYPRO-MINOAN SIGN CM001w2w4w5w6w7w8w9v10w1w2xBw3w5w7w9v21w3w4w5w6w7w8w9v30w3w4w5w6",
    "w7w8w9v40w1w4w6w7w9v50w1w2w3w4w5w6w8w9v60w1w2w3w4w6w7w8w9v70w1w2w3w4w5xBw6w8w9v80w1w2w3w4w5w",
    "6w7w8w9v90w1w2w4w5w6w7w8w9u100w1w2w3w4w5w7w8w9v10w2w4u301w2.............aEGYPTIAN HIEROGLYPH",
    " A001x2x3x4x5yAx6yAyBx7x8x9w10x1x2x3x4yAx5x6x7yAx8x9w20x1x2x3x4x5x6x7x8x9w30x1x2yAx3x4x5x6x7",
    "x8x9w40yAx1x2yAx3yAx4x5yAx6x7x8x9w50x1x2x3x4x5x6x7x8x9w60x1x2x3x4x5x6x7x8x9w70uB001x2x3x4x5y",
    "Ax6x7x8x9uC001x2yAyByCx3x4x5x6x7x8x9w10yAx1x2x3x4x5x6x7x8x9w20x1x2x3x4uD001x2x3x4x5x6x7x8yAx",
    "9w10x1x2x3x4x5x6x7x8x9w20x1x2x3x4x5x6x7yAx8x9w30x1yAx2x3x4yAx5x6x7x8x9w40x1x2x3x4x5x6yAx7x8y",
    "Ax9w50yAyByCyDyEyFyGyHyIx1x2yAx3x4yAx5x6x7x8x9w60x1x2x3x4x5x6x7yAyByCyDyEyFyGyHuE001x2x3x4x5",
    "x6x7x8yAx9yAw10x1x2x3x4x5x6yAx7yAx8x9w20yAx1x2x3x4x5x6x7x8yAx9w30x1x2x3x4yAx6x7x8uF001yAx2x3",
    "x4x5x6x7x8x9w10x1x2x3yAx4x5x6x7x8x9w20x1yAx2x3x4x5x6x7x8x9w30x1yAx2x3x4x5x6x7yAx8yAx9w40x1x2",
    "x3x4x5yAx6yAx7yAx8x9w50x1yAyByCx2x3uG001x2x3x4x5x6yAx7yAyBx8x9w10x1yAx2x3x4x5x6x7x8x9w20yAx1",
    "x2x3x4x5x6yAx7x8x9w30x1x2x3x4x5x6yAx7yAx8x9w40x1x2x3yAx4x5yAx6x7x8x9w50x1x2x3x4uH001x2x3x4x5",
    "x6yAx7x8uI001x2x3x4x5yAx6x7x8x9yAw10yAx1yAx2x3x4x5uK001x2x3x4x5x6x7x8uL001x2yAx3x4x5x6yAx7x8",
    "uM001yAyBx2x3yAx4x5x6x7x8x9w10yAx1x2yAyByCyDyEyFyGyHx3x4x5yAx6yAx7yAx8x9w20x1x2yAx3x4yAx5x6x",
    "7x8yAx9w30x1yAx2x3yAyBx4x5x6x7x8x9w40yAx1x2x3x4uN001x2x3x4x5x6x7x8x9w10x1x2x3x4x5x6x7x8yAyBx",
    "9w20x1x2x3x4x5yAx6x7x8x9w30x1x2x3yAx4yAx5yAx6x7yAx8x9w40x1x2vL001y2y3y4y5zaAy6y7y8y9x10y1y2y",
    "3y4y5y6y7zaAy8y9x20vU001y2y3y4y5y6y7y8y9x10zaAy1zaAy2y3y4y5y6y7y8zaAy9x20y1y2zaAuO001yAx2x3x",
    "4x5yAx6yAyByCyDyEyFx7x8x9w10yAyByCx1x2x3x4x5x6x7x8x9yAw20yAx1x2x3x4yAx5yAx6x7x8x9yAw30yAx1x2",
    "x3yAx4x5x6yAyByCyDx7x8x9w40x1x2x3x4x5x6x7x8x9w50yAyBx1uP001yAx2x3yAx4x5x6x7x8x9w10x1uQ001x2x",
    "3x4x5x6x7uR001x2yAx3yAyBx4x5x6x7x8x9w10yAx1x2x3x4x5x6yAx7x8x9w20x1x2x3x4x5x6x7x8x9uS001x2yAx",
    "3x4x5x6yAx7x8x9w10x1x2x3x4yAyBx5x6x7yAx8x9w20x1x2x3x4x5x6yAyBx7x8x9w30x1x2x3x4x5yAx6x7x8x9w4",
    "0x1x2x3x4x5x6uT001x2x3yAx4x5x6x7yAx8yAx9yAw10x1yAx2x3x4x5x6yAx7x8x9w20x1x2x3x4x5x6x7x8x9w30x",
    "1x2yAx3yAx4x5x6uU001x2x3x4x5x6yAyBx7x8x9w10x1x2x3x4x5x6x7x8x9w20x1x2x3yAx4x5x6x7x8x9yAw30x1x",
    "2yAx3x4x5x6x7x8x9w40x1x2uV001yAyByCyDyEyFyGyHyIx2yAx3x4x5x6x7yAyBx8x9w10x1yAyByCx2yAyBx3x4x5",
    "x6x7x8x9w20yAyByCyDyEyFyGyHyIyJyKyLx1x2x3yAx4x5x6x7x8yAx9yAw30yAx1yAx2x3yAx4x5x6x7yAx8x9w40y",
    "AuW001x2x3yAx4x5x6x7x8x9yAw10yAx1x2x3x4yAx5x6x7yAx8yAx9w20x1x2x3x4yAx5uX001x2x3x4yAyBx5x6yAx",
    "7x8yAuY001yAx2x3x4x5x6x7x8uZ001x2yAyByCyDx3yAyBx4yAx5yAx6x7x8x9w10x1x2x3x4x5yAyByCyDyEyFyGyH",
    "yIx6yAyByCyDyEyFyGyHuAA001y2y3y4y5y6y7zaAzaBy8y9x10y1y2y3y4y5y6y7y8y9x20y1y2y3y4y5y6y7y8y9x3",
    "0y1y2.uVERTICAL JOINERuHORIZONTAL JOINERuINSERT AT TOP STARTzfBOTTOM STARTzfTOP ENDzfBOTTOM ",
    "ENDuOVERLAY MIDDLEuBEGIN SEGMENTuEND SEGMENT"]),
  (0x14400, ["aANATOLIAN HIEROGLYPH A001y2y3y4y5y6y7y8y9x10zaAy1y2y3y4y5y6y7y8y9x20y1y2y3y4y5y6za",
    "Ay7y8y9x30y1y2y3y4y5y6y7y8y9zaAx40y1zaAy2y3y4y5zaAy6zaAzaBy7y8y9x50y1y2y3y4y5y6y7y8y9x60y1y2",
    "y3y4y5y6zaAzaBzaCy7y8y9x70y1y2y3y4y5y6y7y8y9x80y1y2y3y4y5y6y7y8y9x90y1y2y3y4y5y6y7zaAy8zaAy9",
    "w100zaAy1zaAy2zaAy3y4zaAzaBzaCy5zaAzaBy6y7zaAzaBzaCy8y9x10zaAzaBy1y2y3y4y5zaAy6y7y8y9x20y1y2",
    "y3y4y5zaAy6y7y8y9x30y1y2y3y4y5zaAy6y7y8y9x40y1y2y3y4y5y6y7y8y9x50y1y2y3y4y5y6y7y8y9x60y1y2y3",
    "y4y5y6y7y8y9x70y1y2y3y4y5y6y7y8y9x80y1y2y3y4y5y6y7y8y9x90y1y2y3y4y5y6y7y8y9w200y1y2zaAzaBy3y",
    "4y5y6y7zaAy8y9zaAx10y1y2y3y4y5zaAy6zaAy7y8y9x20y1y2y3y4y5y6y7zaAy8y9x30y1y2y3y4y5y6y7y8y9x40",
    "y1y2y3y4y5y6y7y8y9x50y1y2y3y4y5y6y7y8y9x60y1y2y3y4y5y6y7zaAy8y9x70y1y2y3y4y5y6y7y8y9x80y1y2y",
    "3y4y5y6y7y8y9zaAx90y1y2y3y4zaAy5y6y7y8y9zaAw300y1y2y3y4y5y6y7y8y9zaAx10y1y2y3y4y5y6y7y8y9x20",
    "y1y2y3y4y5y6y7y8y9zaAx30y1y2AzaBzaCy3y4y5y6zaAzaBzaCy7y8y9x40y1y2y3y4y5y6y7y8y9x50y1y2y3y4y5",
    "y6y7y8y9zaAx60y1y2y3y4zaAy5y6y7y8zaAy9x70y1zaAy2y3y4y5y6y7y8y9x80y1zaAy2y3 RA OR RIzaAy4y5y6",
    "zaAy7y8y9x90y1y2y3 EIGHTy4y5y6y7y8y9w400y1y2y3y4y5y6y7y8y9x10 BEGIN LOGOGRAM MARKzaA END LOG",
    "OGRAM MARKy1y2y3y4y5y6y7y8y9x20y1y2y3y4y5y6y7y8y9x30y1y2y3y4y5y6y7y8y9x40y1y2y3y4y5y6y7y8y9x",
    "50zaAy1y2y3y4y5y6y7zaAy8y9x60y1y2y3y4y5y6y7y8y9x70y1y2y3y4y5y6y7y8y9x80y1y2y3y4y5y6y7y8y9x90",
    "y1y2y3y4y5y6y7w501y2y3y4y5y6y7y8y9x10y1y2y3y4y5y6y7y8y9x20y1y2y3y4y5y6y7y8y9x30"]),
  (0x16800, ["aBAMUM LETTER PHASE-A NGKUE MFONvGBIEE FONvPON MFON PIPAEMGBIEEzlBAvNAA MFONvSHUENS",
    "HUETvTITA MFONvNZA MFONvSHINDA PA NJIvPON PA NJI PIPAEMGBIEEznBAvMAEMBGBIEEvTU MAEMBAvNGANGU",
    "vMAEMVEUXxNSUAEwVEUAENGAMvSEUNYAMvNTOQPENvKEUKEUTNDAvNKINDIvSUUvNGKUENZEUMvLAPAQwET KUTvNTAP",
    " MFAAvMAEKEUPvPASHAEvGHEUAERAEvPAMSHAEvMON NGGEUAETvNZUN MEUTvU YUQ NAEvGHEUAEGHEUAEvNTAP NT",
    "AAvSISAvMGBASAwEUNJOMNDEUQwOOMPUQvKAFAvPA LEERAEWAvNDA LEERAEWAvPETvMAEMKPENvNIKAvPUPvTUAEPv",
    "LUAEPvSONJAMvTEUTEUWENvMAENYIvKETvNDAANGGEUAETvKUOQvMOOMEUTvSHUMvLOMMAEvFIRIvROMvKPOQvSOQvMA",
    "P PIEETvSHIRAEvNTAPvSHOQ NSHUT YUMvNYIT MONGKEUAEQvPAARAEvNKAARAEvUNKNOWNvNGGENvMAESIvNJAMvM",
    "BANYIvNYETvTEUAENvSOTvPAAMvNSHIEEvMAEMvNYIvKAQvNSHAvVEEvLUvNENwAQvMBAQtB NSHUETvTU MAEMGBIEE",
    "vSIEEwET TUvLOM NTEUMvMBA MAELEEvKIEEMvYEURAEvMBAARAEvKAMvPEESHIvYAFU LEERAEWAvLAM NSHUT NYA",
    "MvNTIEE SHEUOQwDU NJAAvGHEUGHEUAEMvPITvTU NSIEEvSHET NJAQyUAEQTUvMFON TEUAEQwBIT MBAAKETvNYI",
    " NTEUMvKEUPUQvGHEUGHENvKEUYEUXvLAANAEvPARUMvVEUMvNGKINDI MVOPxGEU MBUvWUAETvSAKEUAEvTAAMvMEU",
    "QvNGGUOQzc LARGEvMFIYAQvSUEvMBEURIwONTIEENvNYAEMAEvPUNGAAMvMEUT NGGEETvFEUXvMBUOQvFEEvKEUAEM",
    "vMA NJEUAENAzbUQAvLETvNGGAAMwSENvMAvKIQvNGOMtC NGKUE MAEMBAwZAvYUMvWANGKUOQvNGGENwDEUAEREEwG",
    "KAQvGHARAEvMBEEKEETvGBAYIvNYIR MKPARAQ MEUNwTU MBITvMBEUMvPIRIEENvNDOMBUvMBAA CABBAGE-TREEvK",
    "EUSHEUAEPvGHAPvKEUKAQvYU MUOMAEvNZEUMvMBUEvNSEUAENvMBITvYEUQvKPARAQwAAvSEUXvNDIDAvTAASHAEvNJ",
    "UEQvTITA YUEvSUAETvNGGUAEN NYAMvVEUXvNANSANAQvMA KEUAERIvNTAAwGGUONvLAPvMBIRIEENwGBASAQvNTEU",
    "NGBAvTEUTEUXvNGGUMvFUEvNDEUTwSAxHAQvBUNGvVEUAEPENvMBERAEvRUvNJAEMvLAMvTITUAEPvNSUOT NGOMwJEE",
    "EEvKETvNGGUvMAESIwBUAEMvLUvKUTvNJAMwGOMvWUPvNGGUEETwSOMwTENvKUOP NKAARAEvNSUNwDAMvMA NSIEEvY",
    "AAvNDAPvSHUEQwETFONvMBIwAEMBAwBANYIvKEUSEUXvMBEUXvKEUMvMBAA PICKETvYUWOQvNJEUXvMIEEwUAEvSHIQ",
    "vKEN LAWzaFATIGUEvNGAQwAQvLIQvPINwENvTETtD MBUOvWAPvNJIvMFONvNJIEEvLIEEvNJEUTwSHEEwGGAAMAEwY",
    "AMvWUAENvNGKUNvSHEEvNGKAPvKEUAETMEUNvTEUTvSHEUAEvNJAPvSUEvKETvYAEMMAEvKUOMvSAPvMFEUTvNDEUXvM",
    "ALEERIwEUTvSEUAEQvYENvNJEUAEMvKEUOT MBUAEvNGKEURIvTUvGHAAvNGKYEEvFEUFEUAETvNDEEvMGBOFUMvLEUA",
    "EPvNDONvMONIwGBEUNvPUUTvMGBIEEwFOvLUMvNSIEEPvMBAAvKWAETvNYETvTEUAENvSOTvYUWOQvKEUMvRAEMvTEEE",
    "EvNGKEUAEQvMFEUAEvNSIEETvKEUPvPIPwEUTAEvNYUEvLETvNGGAAMvMFIEEvNGGWAENvYUOMvPAPvYUOPvNDAMwTEU",
    "MvSUAEvKUNvNGGEUXxKIEEvTUOTvMEUNvKUQvNSUMvTEUNvMAENJETvNGGAPvLEUMvNGGUOMwSHUTwJUEQvGHEUAEvKU",
    "vREN OLDvTAEwOQvNYIvRIIvLEEEEvMEEEEwvSUUvMUvSHIIxEUXvKYEEvNUvSHUvNTEEvPEEvNIvSHOQvPUQvMVOPvL",
    "OQvREN MUCHvTIvNTUUvMBAA SEVENvSAQvFAAtE NDAPvTOONvMBEUMvLAPvVOMvLOONvPAAvSOMvRAQvNSHUOPwDUN",
    "vPUAEvTAMvNGKAvKPEUXvWUOvSEEvNGGEUAETvPAAMvTOOvKUOPvLOMvNSHIEEwGOPvMAEMvNGKEUXxOQwSHUEvRIMGB",
    "AvNJEUXvPEEMvSAAvNGGURAEvMGBAvGHEUXvNGKEUAEMwJAEMLIvMAPvLOOTvNGGEEEEwDIQvTAEN NTEUMvSETvPUMv",
    "NDAA SOFTNESSwGGUAESHAE NYAMvYIEEvGHEUNvTUAEvYEUAEvPOvTUMAEvKEUAEvSUAENvTEUAEQvVEUAEvWEUXvLA",
    "AMvPUvTAAQvGHAAMAEvNGEUREUTvSHEUAEQvMGBENwBEEvNZAQwKOMvGBETvTUMvKUETvYAPvNYI CLEAVERvYITvMFE",
    "UQvNDIAQvPIEEQvYUEQvLEUAEMvFUEvGBEUXvNGKUPvKETvMAEvNGKAAMIvGHETvFAvNTUMvPEUTvYEUMvNGGEUAEwYI",
    " BETWEENwZUQvPOONvMIEEvFUETvNAEvMUAEvGHEUAEvFU IvMVIvPUAQvNGKUMvKUTvPIETvNTAPvYEUAETvNGGUPvP",
    "A PEOPLEvFU CALLwOMvNJEEvAvTOQvOvIvLAQvPA PLURALvTAAxQvNDAA MY HOUSEvSHIQvYEUXvNGUAEvYUAENwO",
    "Q SWIMMINGzaCOVERwUQxNvKEUXvPEUXvNJEE EPOCHvPUEvWUEvFEEvVEEvLUvMIvREUXwAEvNGUAETxAvSHOyQvFU ",
    "REMEDYvNAvPIvLOQvKOvMENwAxQvTEUvKIvMONvTENvFAQvGHOMtF KAvUvKUvEEvREEvTAEvNYIvLAvRIIxEEvMEEEE",
    "vTAAvNDAAwJAEMvMvSUUwHIIwIwEUXvKYEEwETvNUAExwJUAEvYOQvSHUvYAvNSHAvPEUXvNTEEvWUEvPEEvRUvNIvRE",
    "UXvKENvNGKWAENxGAvSHOvPUAEvFOMvWAvLIwOQvKOvMBENvRENvMAwOwBAAvTETvKPAvSAMBAvVUEQ.......aMRO L",
    "ETTER TAlNGIlYOlMIMlBAlDAlAlPHIlKHAIlHAOlDAIlCHUlKEAAElOLlMAEMlNINlPAlOOmlROlSHIlTHEAlEAlWAl",
    "ElKOlLANnlHAIlRIlTEK.eDIGIT ZEROkONEkTWOlHREEkFOURlIVEkSIXlEVENkEIGHTkNINE....fANDAfOUBLE DA",
    "NDAaTANGSA LETTER OZpCpQpXoAZpCpQpXoVZpCpQpXoEZpCpQpXoIZpCpQpXoUZpCpQpXoAWZqCqQqXoUIZqCqQqXo",
    "FINAL NGoLONG UEXoSHORT UEZuAWXoUECqZqQqXpIUZrCrQrXoMZpCpQpXoKApHAoGAoNGAoSAoYAoWAoPAoNYAoPH",
    "AoBAoMAoNAoHAoLAoHTAoTAoDAoRAoNHAoSHAoCAoTSAoGHAoHTTAoTHAoXAoFAoDHAoCHAoZA.hDIGIT ZEROnONEnT",
    "WOoHREEnFOURoIVEnSIXoEVENnEIGHTnNINE......aBASSA VAH LETTER ENNIrKArSErFArMBErYIErGAHrDHIIrK",
    "PAHrJOrHWAHrWArZOrGBUrDOrCErUWUrTOrBArVUrYEINrPArWADDArArOsOrUrEEsrI..kCOMBINING HIGH TONEuL",
    "OW TONEuMID TONEuLOW-MID TONEuHIGH-LOW TONEkFULL STOP..........aPAHAWH HMONG VOWEL KEEBwVuIB",
    "vVuAUBwVuUBvVuEBvVuAIBwVuOOBwVuAWBwVuUABwVuOBvVuIABwVuABvVuWBvVuAABwVnCONSONANT VAUxNTSAUxLA",
    "UxHAUxNLAUxRAUxNKAUxQHAUxYAUxHLAUxMAUxCHAUxNCHAUxHNAUxPLHAUxNTHAUyAUxAUxXAUxCAUnMARK CIM TUB",
    "wSOwKESxHAVwSUAMwHOMwTAUMnSIGN VOS THOMxSHAB CEEBsCIM CHEEMsVOS THIABwFEEMsXYEEM NTXIVyRHOyT",
    "OVyFAIBsVOS SEEVsMEEJ SUABsVOS NRUAsIB YAMsXAUSsCIM TSOV ROG..........nDIGIT ZEROtONEtTWOuHR",
    "EEtFOURuIVEtSIXuEVENtEIGHTtNINE.nNUMBER TENSuHUNDREDSuTEN THOUSANDSuMILLIONSuHUNDRED MILLION",
    "SuTEN BILLIONSvRILLIONS.nSIGN VOS LUBsXYOOsHLIsTHIRD-STAGE HLIsZWJ THAJsHNUBsNQIGsXIABsNTUJs",
    "AVsTXHEEJ CEEVsMEEJ TSEEBsTAUsLOSsMUSsCIM HAIS LUS NTOG NTOGwCUAM TSHOOJwTXWVzb CHWVwPUB DAW",
    "BwNRES TOS.....nCLAN SIGN TSHEEJxYEEGxLISyAUJxXYOOJxKOOxHAWJxMUASxTHOJySABxPHABxKHABxHAMxVAJ",
    "xFAJxYAJxTSWBxKWMxVWJ"]),
  (0x16E40, ["aMEDEFAIDRIN CAPITAL LETTER MzcSzcVzcWzcATIUzcZzcKPzcPzcTzcGzcFzcIzcKzcAzcJzcEzcBzc",
    "CzcUzcYUzcLzcQzcHPzcNYzcXzcDzcOEzcNzcRzcOzcAIzcYmSMALL LETTER MzaSzaVzaWzaATIUzaZzaKPzaPzaTz",
    "aGzaFzaIzaKzaAzaJzaEzaBzaCzaUzaYUzaLzaQzaHPzaNYzaXzaDzaOEzaNzaRzaOzaAIzaYmDIGIT ZEROsONEsTWO",
    "tHREEsFOURtIVEsSIXtEVENsEIGHTsNINEmNUMBER TENtELEVENtTWELVEuHIRTEENtFOURTEENuIFTEENtSIXTEENu",
    "EVENTEENtEIGHTEENtNINETEENmDIGIT ONE ALTERNATE FORMsTWO ALTERNATE FORMtHREE ALTERNATE FORMmC",
    "OMMAmFULL STOPmSYMBOL AIVAmEXCLAMATION OH"]),
  (0x16F00, ["aMIAO LETTER PAmBAmYI PAmPLAmMAnHAmARCHAIC MAmFAmVAnFAmTAmDAmYI TTAqAmTTAmDDAmNAnHA",
    "mYI NNAmARCHAIC NAmNNAoHAmLAnYAnHAoYAmTLHAmDLHAmTLHYAmDLHYAmKAmGAmYI KAmQAnGAmNGAoHAmARCHAIC",
    " NGAmHAmXAmGHAoHAmTSSAmDZZAmNYAoHAmTSHAmDZHAmYI TSHApDZHAmREFORMED TSHAmSHAnSAmZHAnSHAmTSAmD",
    "ZAmYI TSAmSAmZAnSAnZAoSAmARCHAIC ZZAmZZYAoSYAmWAmAHmHHAmBRImSYImDZYImTEnSEmRTE....fSIGN CONS",
    "ONANT MODIFIER BARfLETTER NASALIZATIONfSIGN ASPIRATIONkREFORMED VOICINGtASPIRATIONfVOWEL SIG",
    "N ArArHHrNsGqOrOqWOrqErNsGqOEYqIrAsNtGrOrErIrUrNGqUrAsNtGrUrEIrNGqYrIqAEsEqERRqROUNDED ERRqE",
    "RqROUNDED ERqAIqEIqAUqOUqNrGqUOGqYUIqOGrERqVWqIGqEAqIONGqUI.......fTONE RIGHTkTOP RIGHTkABOV",
    "EkBELOWfLETTER TONE-2r3r4r5r6r7r8mREFORMED TONE-1zb2zb4zb5zb6zb8"]),
  (0x16FE0, ["aTANGUT ITERATION MARKaNUSHU ITERATION MARKaOLD CHINESE HOOK MARKmITERATION MARKaKH",
    "ITAN SMALL SCRIPT FILLER...........aVIETNAMESE ALTERNATE READING MARK CAzjNHAY"]),
  (0x18800, ["aTANGUT COMPONENT-001t2t3t4t5t6t7t8t9s10t1t2t3t4t5t6t7t8t9s20t1t2t3t4t5t6t7t8t9s30t",
    "1t2t3t4t5t6t7t8t9s40t1t2t3t4t5t6t7t8t9s50t1t2t3t4t5t6t7t8t9s60t1t2t3t4t5t6t7t8t9s70t1t2t3t4t",
    "5t6t7t8t9s80t1t2t3t4t5t6t7t8t9s90t1t2t3t4t5t6t7t8t9r100t1t2t3t4t5t6t7t8t9s10t1t2t3t4t5t6t7t8",
    "t9s20t1t2t3t4t5t6t7t8t9s30t1t2t3t4t5t6t7t8t9s40t1t2t3t4t5t6t7t8t9s50t1t2t3t4t5t6t7t8t9s60t1t",
    "2t3t4t5t6t7t8t9s70t1t2t3t4t5t6t7t8t9s80t1t2t3t4t5t6t7t8t9s90t1t2t3t4t5t6t7t8t9r200t1t2t3t4t5",
    "t6t7t8t9s10t1t2t3t4t5t6t7t8t9s20t1t2t3t4t5t6t7t8t9s30t1t2t3t4t5t6t7t8t9s40t1t2t3t4t5t6t7t8t9",
    "s50t1t2t3t4t5t6t7t8t9s60t1t2t3t4t5t6t7t8t9s70t1t2t3t4t5t6t7t8t9s80t1t2t3t4t5t6t7t8t9s90t1t2t",
    "3t4t5t6t7t8t9r300t1t2t3t4t5t6t7t8t9s10t1t2t3t4t5t6t7t8t9s20t1t2t3t4t5t6t7t8t9s30t1t2t3t4t5t6",
    "t7t8t9s40t1t2t3t4t5t6t7t8t9s50t1t2t3t4t5t6t7t8t9s60t1t2t3t4t5t6t7t8t9s70t1t2t3t4t5t6t7t8t9s8",
    "0t1t2t3t4t5t6t7t8t9s90t1t2t3t4t5t6t7t8t9r400t1t2t3t4t5t6t7t8t9s10t1t2t3t4t5t6t7t8t9s20t1t2t3",
    "t4t5t6t7t8t9s30t1t2t3t4t5t6t7t8t9s40t1t2t3t4t5t6t7t8t9s50t1t2t3t4t5t6t7t8t9s60t1t2t3t4t5t6t7",
    "t8t9s70t1t2t3t4t5t6t7t8t9s80t1t2t3t4t5t6t7t8t9s90t1t2t3t4t5t6t7t8t9r500t1t2t3t4t5t6t7t8t9s10",
    "t1t2t3t4t5t6t7t8t9s20t1t2t3t4t5t6t7t8t9s30t1t2t3t4t5t6t7t8t9s40t1t2t3t4t5t6t7t8t9s50t1t2t3t4",
    "t5t6t7t8t9s60t1t2t3t4t5t6t7t8t9s70t1t2t3t4t5t6t7t8t9s80t1t2t3t4t5t6t7t8t9s90t1t2t3t4t5t6t7t8",
    "t9r600t1t2t3t4t5t6t7t8t9s10t1t2t3t4t5t6t7t8t9s20t1t2t3t4t5t6t7t8t9s30t1t2t3t4t5t6t7t8t9s40t1",
    "t2t3t4t5t6t7t8t9s50t1t2t3t4t5t6t7t8t9s60t1t2t3t4t5t6t7t8t9s70t1t2t3t4t5t6t7t8t9s80t1t2t3t4t5",
    "t6t7t8t9s90t1t2t3t4t5t6t7t8t9r700t1t2t3t4t5t6t7t8t9s10t1t2t3t4t5t6t7t8t9s20t1t2t3t4t5t6t7t8t",
    "9s30t1t2t3t4t5t6t7t8t9s40t1t2t3t4t5t6t7t8t9s50t1t2t3t4t5t6t7t8t9s60t1t2t3t4t5t6t7t8"]),
  (0x1AFF0, ["aKATAKANA LETTER MINNAN TONE-2zd3zd4zd5.zd7zd8xNASALIZED TONE-1zn2zn3zn4zn5.zn7zn8.",
    "qARCHAIC EaHIRAGANA LETTER ARCHAIC YEbENTAIGANA LETTER A-1u2u3uWOsI-1u2u3u4sU-1u2u3u4u5sE-2u",
    "3u4u5u6sO-1u2u3sKA-1v2v3v4v5v6v7v8v9v10w1vKEtI-1v2v3v4v5v6v7v8tU-1v2v3v4v5v6v7tE-1v2v3v4v5v6",
    "tO-1v2v3vKIsSA-1v2v3v4v5v6v7v8tI-1v2v3v4v5v6tU-1v2v3v4v5v6v7v8tE-1v2v3v4v5tO-1v2v3v4v5v6v7sT",
    "A-1v2v3v4tI-1v2v3v4v5v6v7tU-1v2v3v4vTOtE-1v2v3v4v5v6v7v8v9tO-1v2v3v4v5v6vRAsNA-1v2v3v4v5v6v7",
    "v8v9tI-1v2v3v4v5v6v7vTEtU-1v2v3tE-1v2v3v4v5v6vKOtO-1v2v3v4v5sHA-1v2v3v4v5v6v7v8v9v10w1tI-1v2",
    "v3v4v5v6v7tU-1v2v3tE-1v2v3v4v5v6v7tO-1v2v3v4v5v6v7v8sMA-1v2v3v4v5v6v7tI-1v2v3v4v5v6v7tU-1v2v",
    "3v4tE-1v2vMAtO-1v2v3v4v5v6sYA-1v2v3v4v5vYOtU-1v2v3v4tO-1v2v3v4v5v6sRA-1v2v3v4tI-1v2v3v4v5v6v",
    "7tU-1v2v3v4v5v6tE-1v2v3v4tO-1v2v3v4v5v6sWA-1v2v3v4v5tI-1v2v3v4v5tE-1v2v3v4tO-1v2v3v4v5v6v7sN",
    "-MU-MO-1zb2bIRAGANA LETTER ARCHAIC WUaKATAKANA LETTER ARCHAIC YIzaEyWU"]),
  (0x1B150, ["aHIRAGANA LETTER SMALL WIxExO"]),
  (0x1B164, ["aKATAKANA LETTER SMALL WIxExOwN"]),
  (0x1BC00, ["aDUPLOYAN LETTER HqXqPqTqFqKqLqBqDqVqGqRqP NqD SqF NqK MqR SqTHqSLOAN DHqDHqKKqSLOA",
    "N JqHLqLHqRHqMqNqJqSqM NqN MqJ MqS JqM WITH DOTqN WITH DOTqJ WITH DOTzbS INSIDE AND ABOVEqS ",
    "WITH DOTzb BELOWqM SqN SqJ SqS SqM N SqN M SqJ M SqS J SqJ S WITH DOTsNt SqS Tt RsPt RqT SsR",
    " SqWrHr RqS NsMqK R SqG R SqS Kt RqAqSLOAN OWqOArqAOUqIqEqIEqSHORT IqUIqEEqSLOAN EHqROMANIAN",
    " IqSLOAN EEqLONG IqYEqUqEUqXWqU NqLONG UqROMANIAN UqUHqSLOAN UqOOHrWrUqWArOrIrEIrOWqNASAL Uw",
    "OwIwAqPERNIN ANyMqSLOAN ENwANwONqVOCALIC M.....jAFFIX LEFT HORIZONTAL SECANTpMID HORIZONTAL ",
    "SECANTpRIGHT HORIZONTAL SECANTpLOW VERTICAL SECANTpMID VERTICAL SECANTpHIGH VERTICAL SECANTp",
    "ATTACHED SECANTyLEFT-TO-RIGHT SECANTyTANGENTzbILyE HOOKyI HOOKyTANGENT HOOK...pHIGH ACUTEuTI",
    "GHT ACUTEuGRAVEuLONG GRAVEuDOTuCIRCLEuLINEuWAVEuVERTICAL.......pLOW ACUTEtTIGHT ACUTEtGRAVEt",
    "LONG GRAVEtDOTtCIRCLEtLINEtWAVEtVERTICALtARROW..jSIGN O WITH CROSSjTHICK LETTER SELECTORjDOU",
    "BLE MARKjPUNCTUATION CHINOOK FULL STOPaSHORTHAND FORMAT LETTER OVERLAPrCONTINUING OVERLAPrDO",
    "WN STEPrUP STEP"]),
  (0x1CF00, ["aZNAMENNY COMBINING MARK GORAZDO NIZKO S KRYZHEM ON LEFTyNIZKO S KRYZHEM ON LEFTyTS",
    "ATA ON LEFTyGORAZDO NIZKO ON LEFTyNIZKO ON LEFTySREDNE ON LEFTyMALO POVYSHE ON LEFTyPOVYSHE ",
    "ON LEFTyVYSOKO ON LEFTyMALO POVYSHE S KHOKHLOM ON LEFTyPOVYSHE S KHOKHLOM ON LEFTyVYSOKO S K",
    "HOKHLOM ON LEFTyGORAZDO NIZKO S KRYZHEM ON RIGHTyNIZKO S KRYZHEM ON RIGHTyTSATA ON RIGHTyGOR",
    "AZDO NIZKO ON RIGHTyNIZKO ON RIGHTySREDNE ON RIGHTyMALO POVYSHE ON RIGHTyPOVYSHE ON RIGHTyVY",
    "SOKO ON RIGHTyMALO POVYSHE S KHOKHLOM ON RIGHTyPOVYSHE S KHOKHLOM ON RIGHTyVYSOKO S KHOKHLOM",
    " ON RIGHTyTSATA S KRYZHEMyMALO POVYSHE S KRYZHEMySTRANNO MALO POVYSHEyPOVYSHE S KRYZHEMziTRA",
    "NNOyVYSOKO S KRYZHEMyMALO POVYSHE STRANNOyGORAZDO VYSOKOyZELOyONyRAVNOyTIKHAYAyBORZAYAyUDARK",
    "AyPODVERTKAyLOMKAyKUPNAYAzaACHKAyZEVOKySKOBAyRAZSEKAyKRYZH ON LEFT..tTONAL RANGE MARK MRACHN",
    "OzlSVETLOzlTRESVETLOtMARK ZADERZHKAyDEMESTVENNY ZADERZHKAyOTSECHKAyPODCHASHIEzj WITH VERTICA",
    "L STROKEyCHASHKAzg POLNAYAyOBLACHKOySOROCHYA NOZHKAyTOCHKAyDVOETOCHIEtATTACHING VERTICAL OME",
    "TtMARK CURVED OMETyKRYZHtLOWER TONAL RANGE INDICATORjPRIZNAK MODIFIER LEVEL-2zh3zbDIRECTION ",
    "FLIPzbKRYZHzbROG.........jNEUME KRYUKu TIKHYpPARAKLITpDVA V CHELNUpKLYUCHpZANOZHEKpSTOPITSAx",
    " S OCHKOMpPEREVODKAy NEPOSTOYANNAYApSTOPITSA WITH SOROCHYA NOZHKApCHELYUSTKApPALKApZAPYATAYA",
    "pGOLUBCHIK BORZYzaTIKHYzaMRACHNYzaSVETLYzaTRESVETLYpVRAKHIYA PROSTAYAyMRACHNAYAySVETLAYAyTRE",
    "SVETLAYAyKLYUCHEVAYA PROSTAYAzlMRACHNAYAzlSVETLAYAzlTRESVETLAYApDOUBLE ZAPYATAYApREVERSED CH",
    "ELYUSTKApDERBITSApKHAMILOpCHASHKApPODCHASHIEpSKAMEYTSA MRACHNAYAzaSVETLAYAzaTRESVETLAYAzbIKH",
    "AYApDEMESTVENNY KLYUCHpSKAMEYTSA KLYUCHEVAYA SVETLAYAzhNEPOSTOYANNAYAzhVAYA TIKHAYAzaDVOECHE",
    "LNAYA PROSTAYAznSVETLAYAznNEPOSTOYANNAYAznKLYUCHEVAYAqLOZHITIEy S ZAPYATOYzaZAKRYTOEzaS KRYZ",
    "HEMpKRYZHpROGpFITApKOBYLApZMEYTSApSTATYAv S ZAPYATOYyKRYZHEMyZAPYATOY I KRYZHEMyKRYZHEM I ZA",
    "PYATOYwZAKRYTAYAzg S ZAPYATOYwS ROGOMyDVUMYA ZAPYATYMIyZAPYATOY I PODCHASHIEMpPOLKULIZMYpSTA",
    "TYA NEPOSTOYANNAYArRELA PROSTAYAwMRACHNOTIKHAYAwKRYZHEVAYAwPOLUPOVODNAYAyVODNAYAwNEPOSTOYANN",
    "AYAwKLYUCHEPOVODNAYAzeNEPOSTOYANNAYAwTIKHAYA PUTNAYAwDVOECHELNAYAzgOKRYZHEVAYAzhPOVODNAYAzgA",
    "YA KLYUCHEVAYAzgOPOVODNAYA KLYUCHEVAYAwGROMNAYA WITH SINGLE ZAPYATAYAzbOPOVODNAYA WITH SINGL",
    "E ZAPYATAYAzbNAYAzbOPOVODNAYAzl WITH DOUBLE ZAPYATAYAzcKRYZHEVAYAzm POVODNAYApMECHIKv POVODN",
    "YwKLYUCHEVOYzePOVODNYzeNEPOSTOYANNYpSTRELA TRYASOGLASNAYAzdPOVODNAYAzdSTRELNAYApOSOKAu SVETL",
    "AYAvTRESVETLAYAvKRYUKOVAYA SVETLAYAwLYUCHEVAYA SVETLAYAziNEPOSTOYANNAYApSTRELA KRYUKOVAYAzh ",
    "POVODNAYAziGROMNAYA WITH SINGLE ZAPYATAYAzmOPOVODNAYA WITH SINGLE ZAPYATAYAzmNAYAzmOPOVODNAY",
    "Azw WITH DOUBLE ZAPYATAYAznKRYZHEVAYAzx POVODNAYAziTRYASKApKUFISMApOBLAKOpDUDApNEMKApPAUK"]),
  (0x1D000, ["aBYZANTINE MUSICAL SYMBOL PSILIzaDASEIAzaPERISPOMENIzaOXEIA EKFONITIKONzgDIPLIzaVAR",
    "EIA EKFONITIKONzhDIPLIzaKATHISTIzaSYRMATIKIzaPARAKLITIKIzaYPOKRISISzj DIPLIzaKREMASTIzaAPESO",
    " EKFONITIKONzaEXO EKFONITIKONzaTELEIAzaKENTIMATAzaAPOSTROFOSzk DIPLIzaSYNEVMAzaTHITAzaOLIGON",
    " ARCHAIONzaGORGON ARCHAIONzaPSILONzaCHAMILONzaVATHYzaISON ARCHAIONzaKENTIMA ARCHAIONzhTA ARC",
    "HAIONzaSAXIMATAzaPARICHONzaSTAVROS APODEXIAzaOXEIAI ARCHAIONzaVAREIAI ARCHAIONzaAPODERMA ARC",
    "HAIONzdTHEMAzaKLASMAzaREVMAzaPIASMA ARCHAIONzaTINAGMAzaANATRICHISMAzaSEISMAzbYNAGMA ARCHAION",
    "ziMETA STAVROUzaOYRANISMA ARCHAIONzaTHEMAzaLEMOIzaDYOzaTRIAzbESSERAzaKRATIMATAzaAPESO EXO NE",
    "OzaFTHORA ARCHAIONzaIMIFTHORAzaTROMIKON ARCHAIONzaKATAVA TROMIKONzaPELASTONzbSIFISTONzaKONTE",
    "VMAzaCHOREVMA ARCHAIONzaRAPISMAzaPARAKALESMA ARCHAIONzfLITIKI ARCHAIONzaICHADINzaNANAzaPETAS",
    "MAzaKONTEVMA ALLOzaTROMIKON ALLOzaSTRAGGISMATAzaGRONTHISMATAzaISON NEOzaOLIGON NEOzbXEIA NEO",
    "zaPETASTIzaKOUFISMAzaPETASTOKOUFISMAzaKRATIMOKOUFISMAzaPELASTON NEOzaKENTIMATA NEO ANOzh NEO",
    " ANOzaYPSILIzaAPOSTROFOS NEOzjI SYNDESMOS NEOzaYPORROIzaKRATIMOYPORROONzaELAFRONzaCHAMILIzaM",
    "IKRON ISONzaVAREIA NEOzaPIASMA NEOzbSIFISTON NEOzaOMALONzaANTIKENOMAzaLYGISMAzaPARAKLITIKI N",
    "EOzfALESMA NEOzaETERON PARAKALESMAzaKYLISMAzaANTIKENOKYLISMAzaTROMIKON NEOzaEKSTREPTONzaSYNA",
    "GMA NEOzcRMAzaCHOREVMA NEOzaEPEGERMAzaSEISMA NEOzaXIRON KLASMAzaTROMIKOPSIFISTONzaPSIFISTOLY",
    "GISMAzaTROMIKOLYGISMAzhPARAKALESMAzaPSIFISTOPARAKALESMAzaTROMIKOSYNAGMAzaPSIFISTOSYNAGMAzaGO",
    "RGOSYNTHETONzaARGOSYNTHETONzaETERON ARGOSYNTHETONzaOYRANISMA NEOzaTHEMATISMOS ESOznXOzf APLO",
    "UNzdS KAI APOTHESzaKATAVASMAzaENDOFONONzaYFEN KATOzfANOzaSTAVROSzaKLASMA ANOzaDIPLI ARCHAION",
    "zaKRATIMA ARCHAIONzjLLOziNEOzaAPODERMA NEOzcLIzaDIPLIzaTRIPLIzbETRAPLIzaKORONISzaLEIMMA ENOS",
    " CHRONOUzhDYO CHRONONzhTRION CHRONONziESSARON CHRONONzhIMISEOS CHRONOUzaGORGON NEO ANOzhPARE",
    "STIGMENON ARISTERAzvDEXIAzaDIGORGONzi PARESTIGMENON ARISTERA KATOzzhANOzxDEXIAzaTRIGORGONzaA",
    "RGONzaIMIDIARGONzaDIARGONzaAGOGI POLI ARGIzgARGOTERIzjIzgMETRIAziSIzgGORGIzkOTERIzgPOLI GORG",
    "IzaMARTYRIA PROTOS ICHOSzjALLI PROTOS ICHOSzjDEYTEROS ICHOSzjALLI DEYTEROS ICHOSzjTRITOS ICH",
    "OSzmFONIASzkETARTOS ICHOSzsLEGETOS ICHOSzjLEGETOS ICHOSzjPLAGIOS ICHOSzaISAKIA TELOUS ICHIMA",
    "TOSzaAPOSTROFOI TELOUS ICHIMATOSzaFANEROSIS TETRAFONIASzkMONOFONIASzkDIFONIASzaMARTYRIA VARY",
    "S ICHOSzjPROTOVARYS ICHOSzkLAGIOS TETARTOS ICHOSzaGORTHMIKON N APLOUNznDIPLOUNzaENARXIS KAI ",
    "FTHORA VOUzaIMIFONONzeTHORONzaFTHORA ARCHAION DEYTEROU ICHOUzhDIATONIKI PAzrNANAzhNAOS ICHOS",
    "zhDIATONIKI DIzhSKLIRON DIATONON DIzhDIATONIKI KEzrZOzrNI KATOzuANOzhMALAKON CHROMA DIFONIAS",
    "zwMONOFONIASzbHTORA SKLIRON CHROMA VASISzbTHORA SKLIRON CHROMA SYNAFIzhNENANOzaCHROA ZYGOSzg",
    "KLITONzgSPATHIzaFTHORA I YFESIS TETARTIMORIONzhENARMONIOS ANTIFONIAzaYFESIS TRITIMORIONzaDIE",
    "SIS TRITIMORIONziETARTIMORIONzhAPLI DYO DODEKATAzhMONOGRAMMOS TESSERA DODEKATAzhDIGRAMMOS EX",
    " DODEKATAzhTRIGRAMMOS OKTO DODEKATAzaYFESIS APLI DYO DODEKATAzhMONOGRAMMOS TESSERA DODEKATAz",
    "hDIGRAMMOS EX DODEKATAzhTRIGRAMMOS OKTO DODEKATAzaGENIKI DIESISzhYFESISzaDIASTOLI APLI MIKRI",
    "zpEGALIzjDIPLIzjTHESEOSzaSIMANSIS THESEOSzq DISIMOUzrTRISIMOUzsETRASIMOUzjARSEOSzp DISIMOUzq",
    "TRISIMOUzrETRASIMOUzaDIGRAMMA GGzcFTOGGOS OUzaSTIGMAzaARKTIKO PAziVOUziGAziDIziKEziZOziNIzaK",
    "ENTIMATA NEO MESOzh NEO MESOzhTA NEO KATOzh NEO KATOzbLASMA KATOzaGORGON NEO KATO..........a",
    "MUSICAL SYMBOL SINGLE BARLINEpDOUBLE BARLINEpFINAL BARLINEpREVERSE FINAL BARLINEpDASHED BARL",
    "INEpSHORT BARLINEpLEFT REPEAT SIGNpRIGHT REPEAT SIGNqEPEAT DOTSpDAL SEGNOr CAPOpSEGNOpCODApR",
    "EPEATED FIGURE-1zg2zg3pFERMATAw BELOWpBREATH MARKpCAESURApBRACEtKETpONE-LINE STAFFpTWO-LINE ",
    "STAFFqHREE-LINE STAFFpFOUR-LINE STAFFqIVE-LINE STAFFpSIX-LINE STAFFtSTRING FRETBOARDpFOUR-ST",
    "RING FRETBOARDpG CLEFv OTTAVA ALTAzeBASSApC CLEFpF CLEFv OTTAVA ALTAzeBASSApDRUM CLEF-1za2..",
    "pMULTIPLE MEASURE RESTpDOUBLE SHARPwFLATpFLAT UPuDOWNpNATURAL UPxDOWNpSHARP UPvDOWNpQUARTER ",
    "TONE SHARPzdFLATpCOMMON TIMEqUT TIMEpOTTAVA ALTAwBASSApQUINDICESIMA ALTAzdBASSApMULTI RESTpW",
    "HOLE RESTpHALF RESTpQUARTER RESTpEIGHTH RESTpSIXTEENTH RESTpTHIRTY-SECOND RESTpSIXTY-FOURTH ",
    "RESTpONE HUNDRED TWENTY-EIGHTH RESTpX NOTEHEADpPLUS NOTEHEADpCIRCLE X NOTEHEADpSQUARE NOTEHE",
    "AD WHITEzgBLACKpTRIANGLE NOTEHEAD UP WHITEzlBLACKziLEFT WHITEznBLACKziRIGHT WHITEzoBLACKziDO",
    "WN WHITEznBLACKziUP RIGHT WHITEzrBLACKpMOON NOTEHEAD WHITEzeBLACKpTRIANGLE-ROUND NOTEHEAD DO",
    "WN WHITEztBLACKpPARENTHESIS NOTEHEADpVOID NOTEHEADpNOTEHEAD BLACKqULL NOTEHEADpCLUSTER NOTEH",
    "EAD WHITEzhBLACKpBREVEpWHOLE NOTEpHALF NOTEpQUARTER NOTEpEIGHTH NOTEpSIXTEENTH NOTEpTHIRTY-S",
    "ECOND NOTEpSIXTY-FOURTH NOTEpONE HUNDRED TWENTY-EIGHTH NOTEpCOMBINING STEMzbPRECHGESANG STEM",
    "zaTREMOLO-1zi2zi3pFINGERED TREMOLO-1zh2zh3pCOMBINING AUGMENTATION DOTzaFLAG-1zf2zf3zf4zf5pBE",
    "GIN BEAMpEND BEAMpBEGIN TIEpEND TIEpBEGIN SLURpEND SLURpBEGIN PHRASEpEND PHRASEpCOMBINING AC",
    "CENTzaSTACCATOzaTENUTOzaSTACCATISSIMOzaMARCATOzh-STACCATOzaACCENT-STACCATOzaLOUREpARPEGGIATO",
    " UPzbDOWNpCOMBINING DOITzaRIPzaFLIPzaSMEARzaBENDzaDOUBLE TONGUEzaTRIPLE TONGUEpRINFORZANDOpS",
    "UBITOpZpPIANOpMEZZOpFORTEpCRESCENDOpDECRESCENDOpGRACE NOTE SLASHzbNO SLASHpTRqURNpINVERTED T",
    "URNpTURN SLASHuUPpORNAMENT STROKE-1zg2zg3zg4zg5zg6zg7zg8zg9zg10zh1pHAUPTSTIMMEpNEBENSTIMMEpE",
    "ND OF STIMMEpDEGREE SLASHpCOMBINING DOWN BOWzaUP BOWzaHARMONICzaSNAP PIZZICATOpPEDAL MARKvUP",
    " MARKpHALF PEDAL MARKpGLISSANDO UPzaDOWNpWITH FINGERNAILSpDAMPt ALLpMAXIMApLONGApBREVISpSEMI",
    "BREVIS WHITEzbBLACKpMINIMAv BLACKpSEMIMINIMA WHITEzbBLACKpFUSA WHITEuBLACKpLONGA PERFECTA RE",
    "STvIMPERFECTA RESTpBREVIS RESTpSEMIBREVIS RESTpMINIMA RESTpSEMIMINIMA RESTpTEMPUS PERFECTUM ",
    "CUM PROLATIONE PERFECTAzwIMPERFECTAzwPERFECTA DIMINUTION-1wIMPERFECTUM CUM PROLATIONE PERFEC",
    "TAzyIMPERFECTAzzj DIMINUTION-1zzv2zzv3pCROIXpGREGORIAN C CLEFzaF CLEFpSQUARE BpVIRGApPODATUS",
    "pCLIVISpSCANDICUSpCLIMACUSpTORCULUSpPORRECTUSy FLEXUSpSCANDICUS FLEXUSpTORCULUS RESUPINUSpPE",
    "S SUBPUNCTISpKIEVAN C CLEFwEND OF PIECEwFINAL NOTEwRECITATIVE MARKwWHOLE NOTEwHALF NOTEwQUAR",
    "TER NOTE STEM DOWNzpUPwEIGHTH NOTE STEM DOWNzoUPwFLAT SIGNpSORIpKORON"]),
  (0x1D200, ["aGREEK VOCAL NOTATION SYMBOL-1zd2zd3zd4zd5zd6zd7zd8zd9zd10ze1ze2ze3ze4ze5ze6ze7ze8z",
    "e9zd20ze1ze2ze3ze4zd50ze1ze2ze3ze4gINSTRUMENTAL NOTATION SYMBOL-1zk2zk4zk5zk7zk8zk11zl2zl3zl",
    "4zl7zl8zl9zk23zl4zl5zl6zl7zl9zk30zl2zl6zl7zl8zl9zk40zl2zl3zl5zl7zl8zl9zk50zl1zl2zl3zl4aCOMBI",
    "NING GREEK MUSICAL TRISEMEzaETRASEMEyPENTASEMEaGREEK MUSICAL LEIMMA"]),
  (0x1D2E0, ["aMAYAN NUMERAL ZEROoONEoTWOpHREEoFOURpIVEoSIXpEVENoEIGHToNINEoTENoELEVENoTWELVEpHIR",
    "TEENoFOURTEENpIFTEENoSIXTEENpEVENTEENoEIGHTEENoNINETEEN............bONOGRAM FOR EARTHaDIGRAM",
    " FOR HEAVENLY EARTHmUMAN EARTHlEARTHLY HEAVENuUMANqaTETRAGRAM FOR CENTREoFULL CIRCLEoMIREDoB",
    "ARRIERoKEEPING SMALLoCONTRARIETYoASCENToOPPOSITIONoBRANCHING OUToDEFECTIVENESS OR DISTORTION",
    "pIVERGENCEoYOUTHFULNESSoINCREASEoPENETRATIONoREACHoCONTACToHOLDING BACKoWAITINGoFOLLOWINGoAD",
    "VANCEoRELEASEqSISTANCEoEASEoJOYoCONTENTIONoENDEAVOURoDUTIESoCHANGEoDECISIVENESSoBOLD RESOLUT",
    "IONoPACKINGoLEGIONoCLOSENESSoKINSHIPoGATHERINGoSTRENGTHoPURITYoFULLNESSoRESIDENCEoLAW OR MOD",
    "ELoRESPONSEoGOING TO MEEToENCOUNTERSoSTOVEoGREATNESSoENLARGEMENToPATTERNoRITUALoFLIGHToVASTN",
    "ESS OR WASTINGoCONSTANCYoMEASUREoETERNITYoUNITYoDIMINISHMENToCLOSED MOUTHoGUARDEDNESSpATHERI",
    "NG INoMASSINGoACCUMULATIONoEMBELLISHMENToDOUBToWATCHoSINKINGoINNERoDEPARTUREpARKENINGpIMMING",
    "oEXHAUSTIONoSEVERANCEpTOPPAGEoHARDNESSoCOMPLETIONpLOSUREoFAILUREoAGGRAVATIONoCOMPLIANCEoON T",
    "HE VERGEoDIFFICULTIESoLABOURINGoFOSTERING.........aCOUNTING ROD UNIT DIGIT ONEyTWOzaHREEyFOU",
    "RzaIVEySIXzaEVENyEIGHTyNINEnTENS DIGIT ONEyTWOzaHREEyFOURzaIVEySIXzaEVENyEIGHTyNINEaIDEOGRAP",
    "HIC TALLY MARK ONExTWOyHREExFOURyIVEaTALLY MARK ONElFIVE"]),
  (0x1D400, ["aMATHEMATICAL BOLD CAPITAL AzbBzbCzbDzbEzbFzbGzbHzbIzbJzbKzbLzbMzbNzbOzbPzbQzbRzbSz",
    "bTzbUzbVzbWzbXzbYzbZsSMALL AyByCyDyEyFyGyHyIyJyKyLyMyNyOyPyQyRySyTyUyVyWyXyYyZnITALIC CAPITA",
    "L AzdBzdCzdDzdEzdFzdGzdHzdIzdJzdKzdLzdMzdNzdOzdPzdQzdRzdSzdTzdUzdVzdWzdXzdYzdZuSMALL AzbBzbC",
    "zbDzbEzbFzbG.zbIzbJzbKzbLzbMzbNzbOzbPzbQzbRzbSzbTzbUzbVzbWzbXzbYzbZnBOLD ITALIC CAPITAL AziB",
    "ziCziDziEziFziGziHziIziJziKziLziMziNziOziPziQziRziSziTziUziVziWziXziYziZzaSMALL AzgBzgCzgDzg",
    "EzgFzgGzgHzgIzgJzgKzgLzgMzgNzgOzgPzgQzgRzgSzgTzgUzgVzgWzgXzgYzgZnSCRIPT CAPITAL A.zdCzdD..zd",
    "G..zdJzdK..zdNzdOzdPzdQ.zdSzdTzdUzdVzdWzdXzdYzdZuSMALL AzbBzbCzbD.zbF.zbHzbIzbJzbKzbLzbMzbN.",
    "zbPzbQzbRzbSzbTzbUzbVzbWzbXzbYzbZnBOLD SCRIPT CAPITAL AziBziCziDziEziFziGziHziIziJziKziLziMz",
    "iNziOziPziQziRziSziTziUziVziWziXziYziZzaSMALL AzgBzgCzgDzgEzgFzgGzgHzgIzgJzgKzgLzgMzgNzgOzgP",
    "zgQzgRzgSzgTzgUzgVzgWzgXzgYzgZnFRAKTUR CAPITAL AzeB.zeDzeEzeFzeG..zeJzeKzeLzeMzeNzeOzePzeQ.z",
    "eSzeTzeUzeVzeWzeXzeY.vSMALL AzcBzcCzcDzcEzcFzcGzcHzcIzcJzcKzcLzcMzcNzcOzcPzcQzcRzcSzcTzcUzcV",
    "zcWzcXzcYzcZnDOUBLE-STRUCK CAPITAL AzkB.zkDzkEzkFzkG.zkIzkJzkKzkLzkM.zkO...zkSzkTzkUzkVzkWzk",
    "XzkY.zcSMALL AziBziCziDziEziFziGziHziIziJziKziLziMziNziOziPziQziRziSziTziUziVziWziXziYziZnBO",
    "LD FRAKTUR CAPITAL AzjBzjCzjDzjEzjFzjGzjHzjIzjJzjKzjLzjMzjNzjOzjPzjQzjRzjSzjTzjUzjVzjWzjXzjY",
    "zjZzbSMALL AzhBzhCzhDzhEzhFzhGzhHzhIzhJzhKzhLzhMzhNzhOzhPzhQzhRzhSzhTzhUzhVzhWzhXzhYzhZnSANS",
    "-SERIF CAPITAL AzhBzhCzhDzhEzhFzhGzhHzhIzhJzhKzhLzhMzhNzhOzhPzhQzhRzhSzhTzhUzhVzhWzhXzhYzhZy",
    "SMALL AzfBzfCzfDzfEzfFzfGzfHzfIzfJzfKzfLzfMzfNzfOzfPzfQzfRzfSzfTzfUzfVzfWzfXzfYzfZyBOLD CAPI",
    "TAL AzmBzmCzmDzmEzmFzmGzmHzmIzmJzmKzmLzmMzmNzmOzmPzmQzmRzmSzmTzmUzmVzmWzmXzmYzmZzeSMALL AzkB",
    "zkCzkDzkEzkFzkGzkHzkIzkJzkKzkLzkMzkNzkOzkPzkQzkRzkSzkTzkUzkVzkWzkXzkYzkZyITALIC CAPITAL AzoB",
    "zoCzoDzoEzoFzoGzoHzoIzoJzoKzoLzoMzoNzoOzoPzoQzoRzoSzoTzoUzoVzoWzoXzoYzoZzgSMALL AzmBzmCzmDzm",
    "EzmFzmGzmHzmIzmJzmKzmLzmMzmNzmOzmPzmQzmRzmSzmTzmUzmVzmWzmXzmYzmZyBOLD ITALIC CAPITAL AztBztC",
    "ztDztEztFztGztHztIztJztKztLztMztNztOztPztQztRztSztTztUztVztWztXztYztZzlSMALL AzrBzrCzrDzrEzr",
    "FzrGzrHzrIzrJzrKzrLzrMzrNzrOzrPzrQzrRzrSzrTzrUzrVzrWzrXzrYzrZnMONOSPACE CAPITAL AzgBzgCzgDzg",
    "EzgFzgGzgHzgIzgJzgKzgLzgMzgNzgOzgPzgQzgRzgSzgTzgUzgVzgWzgXzgYzgZxSMALL AzeBzeCzeDzeEzeFzeGze",
    "HzeIzeJzeKzeLzeMzeNzeOzePzeQzeRzeSzeTzeUzeVzeWzeXzeYzeZnITALIC SMALL DOTLESS IzjJ..nBOLD CAP",
    "ITAL ALPHAzbBETAzbGAMMAzbDELTAzbEPSILONzbZETAzbETAzbTHETAzbIOTAzbKAPPAzbLAMDAzbMUzbNUzbXIzbO",
    "MICRONzbPIzbRHOzbTHETA SYMBOLzbSIGMAzbTAUzbUPSILONzbPHIzbCHIzbPSIzbOMEGAsNABLAsSMALL ALPHAyB",
    "ETAyGAMMAyDELTAyEPSILONyZETAyETAyTHETAyIOTAyKAPPAyLAMDAyMUyNUyXIyOMICRONyPIyRHOyFINAL SIGMAy",
    "SIGMAyTAUyUPSILONyPHIyCHIyPSIyOMEGAsPARTIAL DIFFERENTIALsEPSILON SYMBOLsTHETA SYMBOLsKAPPA S",
    "YMBOLsPHI SYMBOLsRHO SYMBOLsPI SYMBOLnITALIC CAPITAL ALPHAzdBETAzdGAMMAzdDELTAzdEPSILONzdZET",
    "AzdETAzdTHETAzdIOTAzdKAPPAzdLAMDAzdMUzdNUzdXIzdOMICRONzdPIzdRHOzdTHETA SYMBOLzdSIGMAzdTAUzdU",
    "PSILONzdPHIzdCHIzdPSIzdOMEGAuNABLAuSMALL ALPHAzbBETAzbGAMMAzbDELTAzbEPSILONzbZETAzbETAzbTHET",
    "AzbIOTAzbKAPPAzbLAMDAzbMUzbNUzbXIzbOMICRONzbPIzbRHOzbFINAL SIGMAzbSIGMAzbTAUzbUPSILONzbPHIzb",
    "CHIzbPSIzbOMEGAuPARTIAL DIFFERENTIALuEPSILON SYMBOLuTHETA SYMBOLuKAPPA SYMBOLuPHI SYMBOLuRHO",
    " SYMBOLuPI SYMBOLnBOLD ITALIC CAPITAL ALPHAziBETAziGAMMAziDELTAziEPSILONziZETAziETAziTHETAzi",
    "IOTAziKAPPAziLAMDAziMUziNUziXIziOMICRONziPIziRHOziTHETA SYMBOLziSIGMAziTAUziUPSILONziPHIziCH",
    "IziPSIziOMEGAzaNABLAzaSMALL ALPHAzgBETAzgGAMMAzgDELTAzgEPSILONzgZETAzgETAzgTHETAzgIOTAzgKAPP",
    "AzgLAMDAzgMUzgNUzgXIzgOMICRONzgPIzgRHOzgFINAL SIGMAzgSIGMAzgTAUzgUPSILONzgPHIzgCHIzgPSIzgOME",
    "GAzaPARTIAL DIFFERENTIALzaEPSILON SYMBOLzaTHETA SYMBOLzaKAPPA SYMBOLzaPHI SYMBOLzaRHO SYMBOL",
    "zaPI SYMBOLnSANS-SERIF BOLD CAPITAL ALPHAzmBETAzmGAMMAzmDELTAzmEPSILONzmZETAzmETAzmTHETAzmIO",
    "TAzmKAPPAzmLAMDAzmMUzmNUzmXIzmOMICRONzmPIzmRHOzmTHETA SYMBOLzmSIGMAzmTAUzmUPSILONzmPHIzmCHIz",
    "mPSIzmOMEGAzeNABLAzeSMALL ALPHAzkBETAzkGAMMAzkDELTAzkEPSILONzkZETAzkETAzkTHETAzkIOTAzkKAPPAz",
    "kLAMDAzkMUzkNUzkXIzkOMICRONzkPIzkRHOzkFINAL SIGMAzkSIGMAzkTAUzkUPSILONzkPHIzkCHIzkPSIzkOMEGA",
    "zePARTIAL DIFFERENTIALzeEPSILON SYMBOLzeTHETA SYMBOLzeKAPPA SYMBOLzePHI SYMBOLzeRHO SYMBOLze",
    "PI SYMBOLzeITALIC CAPITAL ALPHAztBETAztGAMMAztDELTAztEPSILONztZETAztETAztTHETAztIOTAztKAPPAz",
    "tLAMDAztMUztNUztXIztOMICRONztPIztRHOztTHETA SYMBOLztSIGMAztTAUztUPSILONztPHIztCHIztPSIztOMEG",
    "AzlNABLAzlSMALL ALPHAzrBETAzrGAMMAzrDELTAzrEPSILONzrZETAzrETAzrTHETAzrIOTAzrKAPPAzrLAMDAzrMU",
    "zrNUzrXIzrOMICRONzrPIzrRHOzrFINAL SIGMAzrSIGMAzrTAUzrUPSILONzrPHIzrCHIzrPSIzrOMEGAzlPARTIAL ",
    "DIFFERENTIALzlEPSILON SYMBOLzlTHETA SYMBOLzlKAPPA SYMBOLzlPHI SYMBOLzlRHO SYMBOLzlPI SYMBOLn",
    "BOLD CAPITAL DIGAMMAsSMALL DIGAMMA..sDIGIT ZEROyONEyTWOzaHREEyFOURzaIVEySIXzaEVENyEIGHTyNINE",
    "nDOUBLE-STRUCK DIGIT ZEROziONEziTWOzjHREEziFOURzjIVEziSIXzjEVENziEIGHTziNINEnSANS-SERIF DIGI",
    "T ZEROzfONEzfTWOzgHREEzfFOURzgIVEzfSIXzgEVENzfEIGHTzfNINEyBOLD DIGIT ZEROzkONEzkTWOzlHREEzkF",
    "OURzlIVEzkSIXzlEVENzkEIGHTzkNINEnMONOSPACE DIGIT ZEROzeONEzeTWOzfHREEzeFOURzfIVEzeSIXzfEVENz",
    "eEIGHTzeNINEaSIGNWRITING HAND-FIST INDEXrCIRCLE INDEXsUP INDEXrOVAL INDEXrHINGE INDEXrANGLE ",
    "INDEXrFIST INDEX BENTrCIRCLE INDEX BENTrFIST THUMB UNDER INDEX BENTwINDEX RAISED KNUCKLEzdCU",
    "PPEDzdHINGEDzj LOWrCIRCLE INDEX HINGErFIST INDEX MIDDLErCIRCLE INDEX MIDDLErFIST INDEX MIDDL",
    "E BENTzkRAISED KNUCKLESzkHINGEDzdUP MIDDLE HINGEDzdHINGED MIDDLE UPzdMIDDLE CONJOINEDzt INDE",
    "X BENTzuMIDDLE BENTzuCUPPEDzuHINGEDzlROSSEDrCIRCLE INDEX MIDDLE CROSSEDrFIST MIDDLE BENT OVE",
    "R INDEXwINDEX BENT OVER MIDDLEzdMIDDLE THUMBrCIRCLE INDEX MIDDLE THUMBrFIST INDEX MIDDLE STR",
    "AIGHT THUMB BENTzkBENT THUMB STRAIGHTzkTHUMB BENTzkHINGED SPREAD THUMB SIDEzdUP MIDDLE HINGE",
    "D THUMB SIDEzzbCONJOINEDzdHINGED MIDDLE UP THUMB SIDEzdMIDDLE UP SPREAD THUMB FORWARDzkTHUMB",
    " CUPPEDzrIRCLEDzqHOOKEDzrINGEDwTHUMB BETWEEN INDEX MIDDLE STRAIGHTwINDEX MIDDLE CONJOINED TH",
    "UMB SIDEzzf CONJOINEDzzgBENTwMIDDLE THUMB HOOKED INDEX UPwINDEX THUMB HOOKED MIDDLE UPzdMIDD",
    "LE CONJOINED HINGED THUMB SIDEzlROSSED THUMB SIDEzlONJOINED THUMB FORWARDzuCUPPED THUMB FORW",
    "ARDwMIDDLE THUMB CUPPED INDEX UPwINDEX THUMB CUPPED MIDDLE UPwMIDDLE THUMB CIRCLED INDEX UPz",
    "yHINGEDwINDEX THUMB ANGLED OUT MIDDLE UPzqIN MIDDLE UPzjCIRCLED MIDDLE UPzdMIDDLE THUMB CONJ",
    "OINED HINGEDzqANGLED OUTzwwMIDDLE THUMB ANGLED OUT INDEX UPzzcCROSSEDzrINDEX UPwINDEX THUMB ",
    "HOOKED MIDDLE HINGEDsLAT FOUR FINGERSzj BENTzkHINGEDzkCONJOINEDzt SPLITrCLAW FOUR FINGERS CO",
    "NJOINEDrFIST FOUR FINGERS CONJOINED BENTrHINGE FOUR FINGERS CONJOINEDrFLAT FIVE FINGERS SPRE",
    "ADwHEEL FIVE FINGERS SPREADwFIVE FINGERS SPREAD FOUR BENTwHEEL FIVE FINGERS SPREAD FOUR BENT",
    "wFIVE FINGERS SPREAD BENTwHEEL FIVE FINGERS SPREAD BENTwFIVE FINGERS SPREAD THUMB FORWARDrCU",
    "P FIVE FINGERS SPREADzp OPENrHINGE FIVE FINGERS SPREAD OPENrOVAL FIVE FINGERS SPREADrFLAT FI",
    "VE FINGERS SPREAD HINGEDzx THUMB SIDEzyNO THUMBvv BETWEEN PALM FACINGSwHEELwTHUMB SIDEwHEEL ",
    "THUMB SIDEwTHUMB BENTzdFORWARDwSPLIT INDEX THUMB SIDEzdCENTREzj THUMB SIDEzu BENTzdLITTLErCL",
    "AWv THUMB SIDEwNO THUMBwTHUMB FORWARDrHOOK CURLICUEvrCUP OPENuu OPEN THUMB SIDEvTHUMB SIDEvO",
    "PEN NO THUMBvNO THUMBvOPEN THUMB FORWARDvTHUMB FORWARDtRLICUE OPENzasIRCLErOVALv THUMB SIDEw",
    "NO THUMBwTHUMB FORWARDrHINGE OPENzc THUMB FORWARDww SMALLxOPEN THUMB SIDExTHUMB SIDExOPEN NO",
    " THUMBxNO THUMBxTHUMB SIDE TOUCHING INDEXzeBETWEEN MIDDLE RINGrANGLErFIST INDEX MIDDLE RINGr",
    "CIRCLE INDEX MIDDLE RINGrHINGE INDEX MIDDLE RINGrANGLE INDEX MIDDLE RINGrHINGE LITTLErFIST I",
    "NDEX MIDDLE RING BENTzpCONJOINEDrHINGE INDEX MIDDLE RING CONJOINEDrFIST LITTLE DOWNzi RIPPLE",
    " STRAIGHTzqCURVEDzjOTHERS CIRCLEDzeUPwTHUMB UNDER LITTLE UPrCIRCLE LITTLE UPrOVAL LITTLE UPr",
    "ANGLE LITTLE UPrFIST LITTLE RAISED KNUCKLEzeBENTzeTOUCHES THUMBzfHUMBrHINGE LITTLE THUMBrFIS",
    "T LITTLE INDEX THUMBrHINGE LITTLE INDEX THUMBrANGLE LITTLE INDEX THUMB INDEX THUMB OUTzzdrFI",
    "ST LITTLE INDEXrCIRCLE LITTLE INDEXrHINGE LITTLE INDEXrANGLE LITTLE INDEXrFIST INDEX MIDDLE ",
    "LITTLErCIRCLE INDEX MIDDLE LITTLErHINGE INDEX MIDDLE LITTLExRINGrANGLE INDEX MIDDLE LITTLErF",
    "IST INDEX MIDDLE CROSS LITTLErCIRCLE INDEX MIDDLE CROSS LITTLErFIST RING DOWNrHINGE RING DOW",
    "N INDEX THUMB HOOK MIDDLErANGLE RING DOWN MIDDLE THUMB INDEX CROSSrFIST RING UPzcRAISED KNUC",
    "KLEzcLITTLErCIRCLE RING LITTLErOVAL RING LITTLErANGLE RING LITTLErFIST RING MIDDLEzi CONJOIN",
    "EDzjRAISED KNUCKLESzcINDEXzcTHUMBrHOOK RING THUMBrFIST INDEX RING LITTLErCIRCLE INDEX RING L",
    "ITTLEsURLICUE INDEX RING LITTLE ONrHOOK INDEX RING LITTLE OUTzpINzpUNDERrCUP INDEX RING LITT",
    "LErHINGE INDEX RING LITTLErANGLE INDEX RING LITTLE OUTzprFIST MIDDLE DOWNrHINGE MIDDLErFIST ",
    "MIDDLE UPrCIRCLE MIDDLE UPrFIST MIDDLE RAISED KNUCKLEzeUP THUMB SIDErHOOK MIDDLE THUMBrFIST ",
    "MIDDLE THUMB LITTLEzeLITTLEzeRING LITTLErCIRCLE MIDDLE RING LITTLEsURLICUE MIDDLE RING LITTL",
    "E ONtP MIDDLE RING LITTLErHINGE MIDDLE RING LITTLErANGLE MIDDLE RING LITTLE OUTzrINzqrCIRCLE",
    " MIDDLE RING LITTLE BENTsLAW MIDDLE RING LITTLE CONJOINEDzza SIDErHOOK MIDDLE RING LITTLE CO",
    "NJOINED OUTzzbINzzasINGE INDEX HINGEDrFIST INDEX THUMB SIDErHINGE INDEX THUMB SIDErFIST INDE",
    "X THUMB SIDE THUMB DIAGONALzuCONJOINEDzuBENTzoINDEX BENTzoBOTH BENTzoINDEX HINGEzjFORWARD IN",
    "DEX STRAIGHTzxBENTzjHOOKzjCURLICUEzmVE THUMB INSIDErCLAW INDEX THUMB CURVE THUMB INSIDErFIST",
    " INDEX THUMB CURVE THUMB UNDERzkIRCLErCUP INDEX THUMBzh OPENrHINGE INDEX THUMB OPENzkLARGEzj",
    "zj SMALLrANGLE INDEX THUMB OUTzkINzjrFIST THUMBzc HEELzdSIDE DIAGONALziCONJOINEDziBENTzdFORW",
    "ARDzdBETWEEN INDEX MIDDLEzlMIDDLE RINGzlRING LITTLEzdUNDER TWO FINGERSzdOVER TWO FINGERSzdUN",
    "DER THREE FINGERSzjFOUR FINGERSzdOVER FOUR RAISED KNUCKLESvv HEELmTOUCH SINGLEsMULTIPLEsBETW",
    "EENmGRASP SINGLEsMULTIPLEsBETWEENmSTRIKE SINGLEtMULTIPLEtBETWEENmBRUSH SINGLEsMULTIPLEsBETWE",
    "ENmRUB SINGLEqMULTIPLEqBETWEENmSURFACE SYMBOLSuBETWEENnQUEEZE LARGE SINGLEuSMALL SINGLEuLARG",
    "E MULTIPLEuSMALL MULTIPLEvEQUENTIALmFLICK LARGE SINGLEsSMALL SINGLEsLARGE MULTIPLEsSMALL MUL",
    "TIPLEtEQUENTIALmSQUEEZE FLICK ALTERNATINGmMOVEMENT-HINGE UP DOWN LARGEzkSMALLzfSEQUENTIALzcD",
    "OWN SEQUENTIALzcUP DOWN ALTERNATING LARGEzwSMALLzcSIDE TO SIDE SCISSORSvWALLPLANE FINGER CON",
    "TACTvFLOORPLANE FINGER CONTACTvWALLPLANE SINGLE STRAIGHT SMALLzwMEDIUMzwLARGEzzcSTznWRIST FL",
    "EXzgDOUBLE STRAIGHTznWRIST FLEXznALTERNATINGzy WRIST FLEXzgCROSSzgTRIPLE STRAIGHT MOVEMENTzn",
    "WRIST FLEXznALTERNATINGzy WRIST FLEXzgBEND SMALLzlMEDIUMzlLARGEzgCORNER SMALLznMEDIUMznLARGE",
    "znROTATIONzhHECK SMALLzmMEDIUMzmLARGEzgBOX SMALLzkMEDIUMzkLARGEzgZIGZAG SMALLznMEDIUMznLARGE",
    "zgPEAKS SMALLzmMEDIUMzmLARGEmTRAVEL-WALLPLANE ROTATION-WALLPLANE SINGLEzxDOUBLEzxALTERNATING",
    "znFLOORPLANE SINGLEzyDOUBLEzyALTERNATINGzeSHAKINGzeARM SPIRAL SINGLEzpDOUBLEzpTRIPLEmMOVEMEN",
    "T-DIAGONAL AWAY SMALLzkMEDIUMzkLARGEzpSTzfTOWARDS SMALLznMEDIUMznLARGEzsSTzfBETWEEN AWAY SMA",
    "LLzsMEDIUMzsLARGEzxSTznTOWARDS SMALLzvMEDIUMzvLARGEzzbSTvFLOORPLANE SINGLE STRAIGHT SMALLzxM",
    "EDIUMzxLARGEzzdSTzoWRIST FLEXzhDOUBLE STRAIGHTzoWRIST FLEXzoALTERNATINGzza WRIST FLEXzhCROSS",
    "zhTRIPLE STRAIGHT MOVEMENTzoWRIST FLEXzoALTERNATING MOVEMENTzzbWRIST FLEXzhBENDzhCORNER SMAL",
    "LzoMEDIUMzoLARGEziHECKzhBOX SMALLzlMEDIUMzlLARGEzhZIGZAG SMALLzoMEDIUMzoLARGEzhPEAKS SMALLzn",
    "MEDIUMznLARGEmTRAVEL-FLOORPLANE ROTATION-FLOORPLANE SINGLEzzaDOUBLEzzaALTERNATINGzoWALLPLANE",
    " SINGLEzyDOUBLEzyALTERNATINGzfSHAKINGmMOVEMENT-WALLPLANE CURVE QUARTER SMALLzuMEDIUMzuLARGEz",
    "zaSTzmHALF-CIRCLE SMALLzyMEDIUMzyLARGEzzeSTzmTHREE-QUARTER CIRCLE SMALLzziMEDIUMzgHUMP SMALL",
    "zlMEDIUMzlLARGEzgLOOP SMALLzlMEDIUMzlLARGEzlSMALL DOUBLEzgWAVE CURVE DOUBLE SMALLzyMEDIUMzyL",
    "ARGEzrTRIPLE SMALLzyMEDIUMzyLARGEzgCURVE THEN STRAIGHTzlD CROSS SMALLztMEDIUMmROTATION-WALLP",
    "LANE SINGLEzgDOUBLEzgALTERNATEmMOVEMENT-WALLPLANE SHAKINGzgCURVE HITTING FRONT WALLzgHUMP HI",
    "TTING FRONT WALLzgLOOP HITTING FRONT WALLzgWAVE HITTING FRONT WALLmROTATION-WALLPLANE SINGLE",
    " HITTING FRONT WALLzgDOUBLE HITTING FRONT WALLzgALTERNATING HITTING FRONT WALLmMOVEMENT-WALL",
    "PLANE CURVE HITTING CHESTzgHUMP HITTING CHESTzgLOOP HITTING CHESTzgWAVE HITTING CHESTmROTATI",
    "ON-WALLPLANE SINGLE HITTING CHESTzgDOUBLE HITTING CHESTzgALTERNATING HITTING CHESTmMOVEMENT-",
    "WALLPLANE WAVE DIAGONAL PATH SMALLzzaMEDIUMzzaLARGEvFLOORPLANE CURVE HITTING CEILING SMALLzz",
    "eLARGEzhHUMP HITTING CEILING SMALL DOUBLEzzdLARGE DOUBLEzzdSMALL TRIPLEzzdLARGE TRIPLEzhLOOP",
    " HITTING CEILING SMALL SINGLEzzdLARGE SINGLEzzdSMALL DOUBLEzzdLARGE DOUBLEzhWAVE HITTING CEI",
    "LING SMALLzzdLARGEmROTATION-FLOORPLANE SINGLE HITTING CEILINGzhDOUBLE HITTING CEILINGzhALTER",
    "NATING HITTING CEILINGmMOVEMENT-FLOORPLANE CURVE HITTING FLOOR SMALLzzcLARGEzhHUMP HITTING F",
    "LOOR SMALL DOUBLEzzbLARGE DOUBLEzzbTRIPLE SMALL TRIPLEzziLARGE TRIPLEzhLOOP HITTING FLOOR SM",
    "ALL SINGLEzzbLARGE SINGLEzzbSMALL DOUBLEzzbLARGE DOUBLEzhWAVE HITTING FLOOR SMALLzzbLARGEmRO",
    "TATION-FLOORPLANE SINGLE HITTING FLOORzhDOUBLE HITTING FLOORzhALTERNATING HITTING FLOORmMOVE",
    "MENT-FLOORPLANE CURVE SMALLznMEDIUMznLARGEzsSTznCOMBINEDzhHUMP SMALLzhLOOP SMALLzhWAVE SNAKE",
    "znMALLzmLARGEmROTATION-FLOORPLANE SINGLEzhDOUBLEzhALTERNATINGmMOVEMENT-FLOORPLANE SHAKING PA",
    "RALLELvWALLPLANE ARM CIRCLE SMALL SINGLEzrMEDIUM SINGLEzrSMALL DOUBLEzrMEDIUM DOUBLEvFLOORPL",
    "ANE ARM CIRCLE HITTING WALL SMALL SINGLEzzgMEDIUM SINGLEzzgLARGE SINGLEzzgSMALL DOUBLEzzgMED",
    "IUM DOUBLEzzgLARGE DOUBLEvWALLPLANE WRIST CIRCLE FRONT SINGLEzzaDOUBLEvFLOORPLANE WRIST CIRC",
    "LE HITTING WALL SINGLEzziDOUBLEvWALLPLANE FINGER CIRCLES SINGLEzvDOUBLEvFLOORPLANE FINGER CI",
    "RCLES HITTING WALL SINGLEzzkDOUBLEmDYNAMIC ARROWHEAD SMALLzfLARGEuFASTuSLOWuTENSEuRELAXEDuSI",
    "MULTANEOUSzh ALTERNATINGuEVERY OTHER TIMEuGRADUALmHEADq RIMrMOVEMENT-WALLPLANE STRAIGHTzlTIL",
    "TzbFLOORPLANE STRAIGHTzbWALLPLANE CURVEzbFLOORPLANE CURVEza CIRCLEmFACE DIRECTION POSITION N",
    "OSE FORWARD TILTINGzqUP OR DOWNzzb TILTINGmEYEBROWS STRAIGHT UPzfNEUTRALzfDOWNmDREAMY EYEBRO",
    "WS NEUTRAL DOWNzdDOWN NEUTRALzdUP NEUTRALzdNEUTRAL UPmFOREHEAD NEUTRALvCONTACTvWRINKLEDmEYES",
    " OPENrSQUEEZEDrCLOSEDp BLINK SINGLEwMULTIPLEpS HALF OPENrWIDE OPENrHALF CLOSEDrWIDENING MOVE",
    "MENTp WINKpLASHES UPwDOWNwFLUTTERINGpGAZE-WALLPLANE STRAIGHTzn DOUBLEzoALTERNATINGuFLOORPLAN",
    "E STRAIGHTzo DOUBLEzpALTERNATINGuWALLPLANE CURVEDuFLOORPLANE CURVEDuWALLPLANE CIRCLINGmCHEEK",
    "S PUFFEDtNEUTRALtSUCKEDmTENSE CHEEKS HIGHzaMIDDLEzaLOWmEARSmNOSE NEUTRALrCONTACTrWRINKLESsIG",
    "GLESmAIR BLOWING OUTqSUCKING INqBLOW SMALL ROTATIONSqSUCK SMALL ROTATIONSmBREATH INHALEtEXHA",
    "LEmMOUTH CLOSED NEUTRALzaFORWARDzaCONTACTsSMILEx WRINKLEDyOPENsFROWNx WRINKLEDyOPENsOPEN CIR",
    "CLExFORWARDxWRINKLEDxOVALzc WRINKLEDzdYAWNxRECTANGLEzh WRINKLEDziYAWNsKISSw FORWARDxWRINKLED",
    "sTENSEx FORWARDySUCKEDmLIPS PRESSED TOGETHERp LOWER OVER UPPERqUPPER OVER LOWERmMOUTH CORNER",
    "SsWRINKLES SINGLEzcDOUBLEmTONGUE STICKING OUT FARtLICKING LIPStTIP BETWEEN LIPSxTOUCHING INS",
    "IDE MOUTHtINSIDE MOUTH RELAXEDtMOVES AGAINST CHEEKtCENTRE STICKING OUTzbINSIDE MOUTHnEETHr M",
    "OVEMENTsON TONGUEzc MOVEMENTvLIPSza MOVEMENTsBITE LIPSmMOVEMENT-WALLPLANE JAWvFLOORPLANE JAW",
    "mNECKmHAIRmEXCITEMENTmSHOULDER HIP SPINEzaPOSITIONSmWALLPLANE SHOULDER HIP MOVEmFLOORPLANE S",
    "HOULDER HIP MOVEmSHOULDER TILTING FROM WAISTmTORSO-WALLPLANE STRAIGHT STRETCHzdCURVED BENDsF",
    "LOORPLANE TWISTINGmUPPER BODY TILTING FROM HIP JOINTSmLIMB COMBINATIONrLENGTH-1y2y3y4y5y6y7m",
    "FINGERmLOCATION-WALLPLANE SPACEvFLOORPLANE SPACEu HEIGHTvWIDTHvDEPTHvHEAD NECKvTORSOvLIMBS D",
    "IGITSmCOMMAmFULL STOPmSEMICOLONmCOLONmPARENTHESIS...............mFILL MODIFIER-2zb3zb4zb5zb6",
    ".mROTATION MODIFIER-2zf3zf4zf5zf6zf7zf8zf9zf10zg1zg2zg3zg4zg5zg6"]),
  (0x1DF00, ["aLATIN SMALL LETTER FENG DIGRAPH WITH TRILLtREVERSED SCRIPT GgLETTER SMALL CAPITAL ",
    "TURNED GgSMALL LETTER REVERSED KgLETTER SMALL CAPITAL L WITH BELTgSMALL LETTER LEZH WITH RET",
    "ROFLEX HOOKtTURNED Y WITH BELTtREVERSED ENGtTURNED R WITH LONG LEG AND RETROFLEX HOOKu WITH ",
    "HOOK AND RETROFLEX HOOKgLETTER RETROFLEX CLICK WITH RETROFLEX HOOKgSMALL LETTER ESH WITH DOU",
    "BLE BARzn AND CURLtTURNED T WITH CURLgLETTER INVERTED GLOTTAL STOP WITH CURLnSTRETCHED C WIT",
    "H CURLoMALL CAPITAL TURNED KgSMALL LETTER L WITH FISHHOOKtDEZH DIGRAPH WITH PALATAL HOOKtL W",
    "ITH BELT AND PALATAL HOOKtENG WITH PALATAL HOOKtTURNED R WITH PALATAL HOOKtR WITH FISHHOOK A",
    "ND PALATAL HOOKtTESH DIGRAPH WITH PALATAL HOOKtEZH WITH PALATAL HOOKtDEZH DIGRAPH WITH RETRO",
    "FLEX HOOKtI WITH STROKE AND RETROFLEX HOOKtO WITH RETROFLEX HOOKtTESH DIGRAPH WITH RETROFLEX",
    " HOOKtC WITH RETROFLEX HOOKtS WITH CURL"]),
  (0x1E000, ["aCOMBINING GLAGOLITIC LETTER AZUzdBUKYzdVEDEzdGLAGOLIzdDOBROzdYESTUzdZHIVETE.zeEMLJ",
    "AzdIZHEzeNITIAL IZHEzezdDJERVIzdKAKOzdLJUDIJEzdMYSLITEzdNASHIzdONUzdPOKOJIzdRITSIzdSLOVOzdTV",
    "RIDOzdUKUzdFRITUzdHERU..zdSHTAzdTSIzdCHRIVIzdSHAzdYERUzgIzeATI.zeUzdSMALL YUS.zdYOzdIOTATED ",
    "SMALL YUSzdBIG YUSzdIOTATED BIG YUSzdFITA"]),
  (0x1E100, ["aNYIAKENG PUACHUE HMONG LETTER MAzfTSAzfNTAzfTAzfHAzfNAzfXAzfNKAzfCAzfLAzfSAzfZAzfN",
    "CAzgTSAzfKAzfDAzfNYAzgRAzfVAzfNTXAzfTXAzfFAzfRAzfQAzfYAzfNQAzfPAzfXYAzfNPAzfDLAzfNPLAzfHAHzf",
    "MLAzfPLAzfGAzfRRAzfAzgAzfIzfUzfOzgOzfEzgEzfW...xTONE-BzdMzdJzdVzdSzdGzdDxSIGN FOR PERSONzhTH",
    "INGzhLOCATIONzhANIMALzhINVERTEBRATEzdXW XWyYLLABLE LENGTHENER..xDIGIT ZEROzeONEzeTWOzfHREEze",
    "FOURzfIVEzeSIXzfEVENzeEIGHTzeNINE....xLOGOGRAM NYAJxCIRCLED CA"]),
  (0x1E290, ["aTOTO LETTER PAmBAmTAmDAmKAmGAmMAmNAnGAmSAmCHAmYAmWAmJAmHAmRAmLAmImBREATHY ImIUmBRE",
    "ATHY IUmUmEmBREATHY EmEOmBREATHY EOmOmAEmBREATHY AEmAfSIGN RISING TONE"]),
  (0x1E2C0, ["aWANCHO LETTER AApoBAoCAoDAoGAoYAoPHAoLAoNAoPAoTApHAoFAoSApHAoJAoZAoWAoVAoKAoOoAUoR",
    "AoMAoKHAoHAoEoIoNGAoUoLLHAoTSApRAoONGoAANGpNGoINGoONoENoAANoNYAoUENoYIHhTONE TUPpNImKOIpNIhD",
    "IGIT ZEROnONEnTWOoHREEnFOURoIVEnSIXoEVENnEIGHTnNINE.....hNGUN SIGN"]),
  (0x1E7E0, ["aETHIOPIC SYLLABLE HHYAvUvIvAAvEEwvO.sGURAGE HHWAsHHWIvEEw.sGURAGE MWIzcEE.zaQWIzcE",
    "EzdzaBWIzcEEzaKWIzcEEzdzaGWIzcEEzdzaFWIzcEEzaPWIzcEE.aMENDE KIKAKUI SYLLABLE M001 KIzb2 KAzb",
    "3 KUza65 KEEza95 KEza76 KOOza48 KOy179 KUAy004 WIzb5 WAzb6 WUy126 WEEza18 WEzb4 WOOy045 WOy1",
    "94 WUIza43 WEIy061 WVIza49 WVAy139 WVEy007 MINzb8 MANzb9 MUNza59 MENza94 MONy154 MUANza89 MU",
    "ENy010 BIzb1 BAzb2 BUy150 BEEy097 BEy103 BOOza38 BOy013 Izb4 Azb5 Uy163 EEza00 Eza65 OOza47 ",
    "Oza37 EIzb1 INzb5 INza95 ANza78 ENy019 SIza20 SAzb1 SUy162 SEEza16 SEza36 SOOy079 SOy196 SIA",
    "y025 LIzb6 LAzb7 LUza84 LEEza73 LEza54 LOOy153 LOza10 LONG LEy016 DIzb7 DAzb8 DUza89 DEEy180",
    " DOOzb1 DOy022 TIzb3 TAzb4 TUza91 TEEza55 TEy104 TOOy069 TOza28 JIzb9 JAza30 JUy157 JEEza13 ",
    "JEza60 JOOy063 JOy175 LONG JOy031 YIzb2 YAzb3 YUy109 YEEy080 YEy141 YOOza21 YOy034 FIzb5 FAz",
    "b6 FUza78 FEEzb5 FEy133 FOOy088 FOy197 FUAza01 FANy037 NINzb8 NANzb9 NUNy117 NENza69 NONza76",
    " HIy041 HAy186 HUy040 HEEza96 HEza42 HOOy140 HOy083 HEEIy128 HOOUy053 HINy130 HANy087 HUNza5",
    "2 HENy193 HONy046 HUANza90 NGGIza43 NGGAza82 NGGUy115 NGGEEza46 NGGEza56 NGGOOza20 NGGOza59 ",
    "NGGAAza27 NGGUAy086 LONG NGGEy106 LONG NGGOOza83 LONG NGGOza55 GIza11 GAza68 GUza90 GEEza66 ",
    "GUEIzb7 GUANza84 NGENy057 NGONy177 NGUANy068 PIza99 PAza50 PUza81 PEEza51 PEy102 POOy066 POy",
    "145 MBIy062 MBAy122 MBUy047 MBEEy188 MBEEy072 MBEy172 MBOOzb4 MBOza87 MBUUza61 LONG MBEza05 ",
    "LONG MBOOza42 LONG MBOza32 KPIy092 KPAza74 KPUza44 KPEEy108 KPEza12 KPOOza58 KPOza24 GBIy056",
    " GBAy148 GBUy093 GBEEy107 GBEy071 GBOOzb0 GBOy171 RAza23 NDIzb9 NDAzb5 NDUza91 NDEEza19 NDEy",
    "067 NDOOzb4 NDOy152 NJAza92 NJUza49 NJEEza34 NJOOza82 VIzb5 VAza51 VUza73 VEEy085 VEy144 VOO",
    "y077 VOy164 NYINy058 NYANy170 NYUNy098 NYENza60 NYON..oDIGIT ONEuTWOvHREEuFOURvIVEuSIXvEVENu",
    "EIGHTuNINEoCOMBINING NUMBER TEENSziNSzgHUNDREDSzgTHOUSANDSzhEN THOUSANDSzgHUNDRED THOUSANDSz",
    "gMILLIONS"]),
  (0x1E900, ["aADLAM CAPITAL LETTER ALIFvDAALIvLAAMvMIIMvBAvSINNYIIYHEvPEvBHEvRAvEvFAvIvOvDHAvYHE",
    "vWAWvNUNvKAFvYAvUvJIIMvCHIvHAvQAAFvGAvNYAvTUvNHAvVAvKHAvGBEvZALvKPOvSHAgSMALL LETTER ALIFtDA",
    "ALItLAAMtMIIMtBAtSINNYIIYHEtPEtBHEtRAtEtFAtItOtDHAtYHEtWAWtNUNtKAFtYAtUtJIIMtCHItHAtQAAFtGAt",
    "NYAtTUtNHAtVAtKHAtGBEtZALtKPOtSHAgALIF LENGTHENERgVOWEL LENGTHENERgGEMINATION MARKgHAMZAgCON",
    "SONANT MODIFIERgGEMINATE CONSONANT MODIFIERgNUKTAhASALIZATION MARK....gDIGIT ZEROmONEmTWOnHR",
    "EEmFOURnIVEmSIXnEVENmEIGHTmNINE....gINITIAL EXCLAMATION MARKoQUESTION MARK"]),
  (0x1EC71, ["aINDIC SIYAQ NUMBER ONEtTWOuHREEtFOURuIVEtSIXuEVENtEIGHTtNINEtTENuWENTYuHIRTYtFORTY",
    "uIFTYtSIXTYuEVENTYtEIGHTYtNINETYtONE HUNDREDtTWO HUNDREDuHREE HUNDREDtFOUR HUNDREDuIVE HUNDR",
    "EDtSIX HUNDREDuEVEN HUNDREDtEIGHT HUNDREDtNINE HUNDREDtONE THOUSANDtTWO THOUSANDuHREE THOUSA",
    "NDtFOUR THOUSANDuIVE THOUSANDtSIX THOUSANDuEVEN THOUSANDtEIGHT THOUSANDtNINE THOUSANDtTEN TH",
    "OUSANDuWENTY THOUSANDuHIRTY THOUSANDtFORTY THOUSANDuIFTY THOUSANDtSIXTY THOUSANDuEVENTY THOU",
    "SANDtEIGHTY THOUSANDtNINETY THOUSANDtLAKHxANmLAKH MARKmNUMBER KARORyANtPREFIXED ONEzdTWOzeHR",
    "EEzdFOURzeIVEzdSIXzeEVENzdEIGHTzdNINEmPLACEHOLDERmFRACTION ONE QUARTERzaHALFvTHREE QUARTERSm",
    "RUPEE MARKmNUMBER ALTERNATE ONEzeTWOzfEN THOUSANDmALTERNATE LAKH MARK"]),
  (0x1ED01, ["aOTTOMAN SIYAQ NUMBER ONEvTWOwHREEvFOURwIVEvSIXwEVENvEIGHTvNINEvTENwWENTYwHIRTYvFOR",
    "TYwIFTYvSIXTYwEVENTYvEIGHTYvNINETYvONE HUNDREDvTWO HUNDREDwHREE HUNDREDvFOUR HUNDREDwIVE HUN",
    "DREDvSIX HUNDREDwEVEN HUNDREDvEIGHT HUNDREDvNINE HUNDREDvONE THOUSANDvTWO THOUSANDwHREE THOU",
    "SANDvFOUR THOUSANDwIVE THOUSANDvSIX THOUSANDwEVEN THOUSANDvEIGHT THOUSANDvNINE THOUSANDvTEN ",
    "THOUSANDwWENTY THOUSANDwHIRTY THOUSANDvFORTY THOUSANDwIFTY THOUSANDvSIXTY THOUSANDwEVENTY TH",
    "OUSANDvEIGHTY THOUSANDvNINETY THOUSANDoMARRATANoALTERNATE NUMBER TWOzhHREEzgFOURzhIVEzgSIXzh",
    "EVENzgEIGHTzgNINEzgTENzgFOUR HUNDREDzgSIX HUNDREDzgTWO THOUSANDzhEN THOUSANDoFRACTION ONE HA",
    "LFzcSIXTH"]),
  (0x1EE00, ["aARABIC MATHEMATICAL ALEFuBEHuJEEMuDAL.uWAWuZAINuHAHuTAHuYEHuKAFuLAMuMEEMuNOONuSEEN",
    "uAINuFEHuSADuQAFuREHuSHEENuTEHvHEHuKHAHuTHALuDADuZAHuGHAINuDOTLESS BEHzdNOONzdFEHzdQAF.uINIT",
    "IAL BEHzdJEEM.zdHEH..zeAH.zdYEHzdKAFzdLAMzdMEEMzdNOONzdSEENzdAINzdFEHzdSADzdQAF.zdSHEENzdTEH",
    "zeHEHzdKHAH.zdDAD.zdGHAIN......uTAILED JEEM....zcHAH.zcYEH.zcLAM.zcNOONzcSEENzcAIN.zcSADzcQA",
    "F.zcSHEEN..zcKHAH.zcDAD.zcGHAIN.zcDOTLESS NOON.zkQAF.uSTRETCHED BEHzfJEEM.zfHEH..zgAHzfTAHzf",
    "YEHzfKAF.zfMEEMzfNOONzfSEENzfAINzfFEHzfSADzfQAF.zfSHEENzfTEHzgHEHzfKHAH.zfDADzfZAHzfGHAINzfD",
    "OTLESS BEH.znFEH.uLOOPED ALEFzcBEHzcJEEMzcDALzcHEHzcWAWzcZAINzcHAHzcTAHzcYEH.zcLAMzcMEEMzcNO",
    "ONzcSEENzcAINzcFEHzcSADzcQAFzcREHzcSHEENzcTEHzdHEHzcKHAHzcTHALzcDADzcZAHzcGHAIN.....uDOUBLE-",
    "STRUCK BEHzjJEEMzjDAL.zjWAWzjZAINzjHAHzjTAHzjYEH.zjLAMzjMEEMzjNOONzjSEENzjAINzjFEHzjSADzjQAF",
    "zjREHzjSHEENzjTEHzkHEHzjKHAHzjTHALzjDADzjZAHzjGHAIN"]),
  (0x1EEF0, ["aARABIC MATHEMATICAL OPERATOR MEEM WITH HAH WITH TATWEELzeHAH WITH DAL"]),
  (0x1F000, ["aMAHJONG TILE EAST WINDnSOUTH WINDnWEST WINDnNORTH WINDnRED DRAGONnGREEN DRAGONnWHI",
    "TE DRAGONnONE OF CHARACTERSnTWO OF CHARACTERSoHREE OF CHARACTERSnFOUR OF CHARACTERSoIVE OF C",
    "HARACTERSnSIX OF CHARACTERSoEVEN OF CHARACTERSnEIGHT OF CHARACTERSnNINE OF CHARACTERSnONE OF",
    " BAMBOOSnTWO OF BAMBOOSoHREE OF BAMBOOSnFOUR OF BAMBOOSoIVE OF BAMBOOSnSIX OF BAMBOOSoEVEN O",
    "F BAMBOOSnEIGHT OF BAMBOOSnNINE OF BAMBOOSnONE OF CIRCLESnTWO OF CIRCLESoHREE OF CIRCLESnFOU",
    "R OF CIRCLESoIVE OF CIRCLESnSIX OF CIRCLESoEVEN OF CIRCLESnEIGHT OF CIRCLESnNINE OF CIRCLESn",
    "PLUMnORCHIDnBAMBOOnCHRYSANTHEMUMnSPRINGoUMMERnAUTUMNnWINTERnJOKERnBACK....aDOMINO TILE HORIZ",
    "ONTAL BACKw-00-00zc1zc2zc3zc4zc5zc6y1-00zc1zc2zc3zc4zc5zc6y2-00zc1zc2zc3zc4zc5zc6y3-00zc1zc2",
    "zc3zc4zc5zc6y4-00zc1zc2zc3zc4zc5zc6y5-00zc1zc2zc3zc4zc5zc6y6-00zc1zc2zc3zc4zc5zc6mVERTICAL B",
    "ACKu-00-00za1za2za3za4za5za6w1-00za1za2za3za4za5za6w2-00za1za2za3za4za5za6w3-00za1za2za3za4z",
    "a5za6w4-00za1za2za3za4za5za6w5-00za1za2za3za4za5za6w6-00za1za2za3za4za5za6............aPLAYI",
    "NG CARD BACKnACE OF SPADESnTWO OF SPADESoHREE OF SPADESnFOUR OF SPADESoIVE OF SPADESnSIX OF ",
    "SPADESoEVEN OF SPADESnEIGHT OF SPADESnNINE OF SPADESnTEN OF SPADESnJACK OF SPADESnKNIGHT OF ",
    "SPADESnQUEEN OF SPADESnKING OF SPADES..nACE OF HEARTSnTWO OF HEARTSoHREE OF HEARTSnFOUR OF H",
    "EARTSoIVE OF HEARTSnSIX OF HEARTSoEVEN OF HEARTSnEIGHT OF HEARTSnNINE OF HEARTSnTEN OF HEART",
    "SnJACK OF HEARTSnKNIGHT OF HEARTSnQUEEN OF HEARTSnKING OF HEARTSnRED JOKER.nACE OF DIAMONDSn",
    "TWO OF DIAMONDSoHREE OF DIAMONDSnFOUR OF DIAMONDSoIVE OF DIAMONDSnSIX OF DIAMONDSoEVEN OF DI",
    "AMONDSnEIGHT OF DIAMONDSnNINE OF DIAMONDSnTEN OF DIAMONDSnJACK OF DIAMONDSnKNIGHT OF DIAMOND",
    "SnQUEEN OF DIAMONDSnKING OF DIAMONDSnBLACK JOKER.nACE OF CLUBSnTWO OF CLUBSoHREE OF CLUBSnFO",
    "UR OF CLUBSoIVE OF CLUBSnSIX OF CLUBSoEVEN OF CLUBSnEIGHT OF CLUBSnNINE OF CLUBSnTEN OF CLUB",
    "SnJACK OF CLUBSnKNIGHT OF CLUBSnQUEEN OF CLUBSnKING OF CLUBSnWHITE JOKERnFOOLnTRUMP-1t2t3t4t",
    "5t6t7t8t9t10u1u2u3u4u5u6u7u8u9t20u1..........aDIGIT ZERO FULL STOPlCOMMAgONE COMMAgTWO COMMA",
    "hHREE COMMAgFOUR COMMAhIVE COMMAgSIX COMMAhEVEN COMMAgEIGHT COMMAgNINE COMMAcNGBAT CIRCLED S",
    "ANS-SERIF DIGIT ZEROiNEGATIVE CIRCLED SANS-SERIF DIGIT ZEROaCIRCLED ZERO WITH SLASHiANTICLOC",
    "KWISE ARROWiDOLLAR SIGN WITH OVERLAID BACKSLASHaPARENTHESIZED LATIN CAPITAL LETTER AzkBzkCzk",
    "DzkEzkFzkGzkHzkIzkJzkKzkLzkMzkNzkOzkPzkQzkRzkSzkTzkUzkVzkWzkXzkYzkZaTORTOISE SHELL BRACKETED",
    " LATIN CAPITAL LETTER SaCIRCLED ITALIC LATIN CAPITAL LETTER CzlRiCDiWZbOPYLEFT SYMBOLaSQUARE",
    "D LATIN CAPITAL LETTER AzeBzeCzeDzeEzeFzeGzeHzeIzeJzeKzeLzeMzeNzeOzePzeQzeRzeSzeTzeUzeVzeWze",
    "XzeYzeZiHViMViSDjSiPPViWCaNEGATIVE CIRCLED LATIN CAPITAL LETTER AznBznCznDznEznFznGznHznIznJ",
    "znKznLznMznNznOznPznQznRznSznTznUznVznWznXznYznZaRAISED MC SIGNiD SIGNiR SIGNaCIRCLED CCj WI",
    "TH OVERLAID BACKSLASHiHUMAN FIGUREaNEGATIVE SQUARED LATIN CAPITAL LETTER AznBznCznDznEznFznG",
    "znHznIznJznKznLznMznNznOznPznQznRznSznTznUznVznWznXznYznZaCROSSED NEGATIVE SQUARED LATIN CAP",
    "ITAL LETTER PaNEGATIVE SQUARED ICrPArSArABrWCaSQUARE DJgD CLjOOLiFREEiIDiNEWjGiOKiSOSiUP WIT",
    "H EXCLAMATION MARKiVSiTHREE DiSECOND SCREENiTWO KiFOUR KiEIGHT KiFIVE POINT ONEiSEVEN POINT ",
    "ONEiTWENTY-TWO POINT TWOiSIXTY PiONE HUNDRED TWENTY PiLATIN SMALL LETTER DiHCjDRjI-RESiLOSSL",
    "ESSiSHViUHDiVODaMASK WORK SYMBOL"]),
  (0x1F1E6, ["aREGIONAL INDICATOR SYMBOL LETTER AziBziCziDziEziFziGziHziIziJziKziLziMziNziOziPziQ",
    "ziRziSziTziUziVziWziXziYziZaSQUARE HIRAGANA HOKAgD KATAKANA KOKOrSA.............iCJK UNIFIED",
    " IDEOGRAPH-624Bzf5B57zg3CCiKATAKANA DEiCJK UNIFIED IDEOGRAPH-4E8Czf591Azf89E3zf5929zf4EA4zf6",
    "620zf7121zf6599zf524DzgF8Czg18Dzf65B0zf521Dzf7D42zg51Fzf8CA9zf58F0zg439zf6F14zg295zg355zf4E0",
    "0zi9zf904Azf5DE6zf4E2Dzf53F3zf6307zf8D70zf6253zf7981zgA7Azf5408zf6E80zg709zi8zf7533zf5272zg5",
    "B6zf914D....aTORTOISE SHELL BRACKETED CJK UNIFIED IDEOGRAPH-672Czw4E09zy8Czw5B89zw70B9zw6253",
    "zw76D7zw52DDzw6557.......aCIRCLED IDEOGRAPH ADVANTAGEtCCEPT..............aROUNDED SYMBOL FOR",
    " FUtLUtSHOUtXItSHUANGXItCAI"]),
  (0x1F300, ["aCYCLONEaFOGGYaCLOSED UMBRELLAaNIGHT WITH STARSaSUNRISE OVER MOUNTAINShaCITYSCAPE A",
    "T DUSKaSUNSET OVER BUILDINGSaRAINBOWaBRIDGE AT NIGHTaWATER WAVEaVOLCANOaMILKY WAYaEARTH GLOB",
    "E EUROPE-AFRICAmAMERICASnSIA-AUSTRALIAaGLOBE WITH MERIDIANSaNEW MOON SYMBOLaWAXING CRESCENT ",
    "MOON SYMBOLaFIRST QUARTER MOON SYMBOLaWAXING GIBBOUS MOON SYMBOLaFULL MOON SYMBOLaWANING GIB",
    "BOUS MOON SYMBOLaLAST QUARTER MOON SYMBOLaWANING CRESCENT MOON SYMBOLaCRESCENT MOONaNEW MOON",
    " WITH FACEaFIRST QUARTER MOON WITH FACEaLAST QUARTER MOON WITH FACEaFULL MOON WITH FACEaSUN ",
    "WITH FACEaGLOWING STARaSHOOTING STARaTHERMOMETERaBLACK DROPLETaWHITE SUNj WITH SMALL CLOUDkB",
    "EHIND CLOUDw WITH RAINaCLOUD WITH RAINlSNOWlLIGHTNINGlTORNADOaFOGaWIND BLOWING FACEaHOT DOGa",
    "TACOaBURRITOaCHESTNUTaSEEDLINGaEVERGREEN TREEaDECIDUOUS TREEaPALM TREEaCACTUSaHOT PEPPERaTUL",
    "IPaCHERRY BLOSSOMaROSEaHIBISCUSaSUNFLOWERaBLOSSOMaEAR OF MAIZEhRICEaHERBaFOUR LEAF CLOVERaMA",
    "PLE LEAFaFALLEN LEAFaLEAF FLUTTERING IN WINDaMUSHROOMaTOMATOaAUBERGINEaGRAPESaMELONaWATERMEL",
    "ONaTANGERINEaLEMONaBANANAaPINEAPPLEaRED APPLEaGREEN APPLEaPEARdCHaCHERRIESaSTRAWBERRYaHAMBUR",
    "GERaSLICE OF PIZZAaMEAT ON BONEaPOULTRY LEGaRICE CRACKERfBALLaCOOKED RICEbURRY AND RICEaSTEA",
    "MING BOWLbPAGHETTIaBREADaFRENCH FRIESaROASTED SWEET POTATOaDANGOaODENaSUSHIaFRIED SHRIMPbISH",
    " CAKE WITH SWIRL DESIGNaSOFT ICE CREAMbHAVED ICEaICE CREAMaDOUGHNUTaCOOKIEbHOCOLATE BARbANDY",
    "aLOLLIPOPaCUSTARDaHONEY POTaSHORTCAKEaBENTO BOXaPOT OF FOODaCOOKINGaFORK AND KNIFEaTEACUP WI",
    "THOUT HANDLEaSAKE BOTTLE AND CUPaWINE GLASSaCOCKTAIL GLASSaTROPICAL DRINKaBEER MUGaCLINKING ",
    "BEER MUGSaBABY BOTTLEaFORK AND KNIFE WITH PLATEaBOTTLE WITH POPPING CORKaPOPCORNaRIBBONaWRAP",
    "PED PRESENTaBIRTHDAY CAKEaJACK-O-LANTERNaCHRISTMAS TREEaFATHER CHRISTMASbIREWORKSi SPARKLERa",
    "BALLOONaPARTY POPPERaCONFETTI BALLaTANABATA TREEaCROSSED FLAGSaPINE DECORATIONaJAPANESE DOLL",
    "SaCARP STREAMERaWIND CHIMEaMOON VIEWING CEREMONYaSCHOOL SATCHELaGRADUATION CAPaHEART WITH TI",
    "P ON THE LEFTaBOUQUET OF FLOWERSaMILITARY MEDALaREMINDER RIBBONaMUSICAL KEYBOARD WITH JACKSa",
    "STUDIO MICROPHONEaLEVEL SLIDERaCONTROL KNOBSaBEAMED ASCENDING MUSICAL NOTEShDESCENDING MUSIC",
    "AL NOTESaFILM FRAMESaADMISSION TICKETSaCAROUSEL HORSEaFERRIS WHEELaROLLER COASTERaFISHING PO",
    "LE AND FISHaMICROPHONEbOVIE CAMERAaCINEMAaHEADPHONEaARTIST PALETTEaTOP HATaCIRCUS TENTaTICKE",
    "TaCLAPPER BOARDaPERFORMING ARTSaVIDEO GAMEaDIRECT HITaSLOT MACHINEaBILLIARDSaGAME DIEaBOWLIN",
    "GaFLOWER PLAYING CARDSaMUSICAL NOTEcLTIPLE MUSICAL NOTESaSAXOPHONEaGUITARaMUSICAL KEYBOARDaT",
    "RUMPETaVIOLINaMUSICAL SCOREaRUNNING SHIRT WITH SASHaTENNIS RACQUET AND BALLaSKI AND SKI BOOT",
    "aBASKETBALL AND HOOPaCHEQUERED FLAGaSNOWBOARDERaRUNNERaSURFERbPORTS MEDALaTROPHYaHORSE RACIN",
    "GaAMERICAN FOOTBALLaRUGBY FOOTBALLaSWIMMERaWEIGHT LIFTERaGOLFERaRACING MOTORCYCLEhCARaCRICKE",
    "T BAT AND BALLaVOLLEYBALLaFIELD HOCKEY STICK AND BALLaICE HOCKEY STICK AND PUCKaTABLE TENNIS",
    " PADDLE AND BALLaSNOW CAPPED MOUNTAINaCAMPINGaBEACH WITH UMBRELLAbUILDING CONSTRUCTIONaHOUSE",
    " BUILDINGSaCITYSCAPEaDERELICT HOUSE BUILDINGaCLASSICAL BUILDINGaDESERTg ISLANDaNATIONAL PARK",
    "aSTADIUMaHOUSE BUILDINGgWITH GARDENaOFFICE BUILDINGaJAPANESE POST OFFICEaEUROPEAN POST OFFIC",
    "EaHOSPITALaBANKaAUTOMATED TELLER MACHINEaHOTELaLOVE HOTELaCONVENIENCE STOREaSCHOOLaDEPARTMEN",
    "T STOREaFACTORYaIZAKAYA LANTERNaJAPANESE CASTLEaEUROPEAN CASTLEaWHITE PENNANTaBLACK PENNANTa",
    "WAVING WHITE FLAGhBLACK FLAGaROSETTEaBLACK ROSETTEaLABELaBADMINTON RACQUET AND SHUTTLECOCKbO",
    "W AND ARROWaAMPHORAaEMOJI MODIFIER FITZPATRICK TYPE-1-2zh3zh4zh5zh6aRATaMOUSEaOXaWATER BUFFA",
    "LOaCOWaTIGERaLEOPARDaRABBITaCATaDRAGONaCROCODILEaWHALEaSNAILdKEaHORSEaRAMaGOATaSHEEPaMONKEYa",
    "ROOSTERaCHICKENaDOGaPIGaBOARaELEPHANTaOCTOPUSaSPIRAL SHELLaBUGaANTaHONEYBEEaLADY BEETLEaFISH",
    "aTROPICAL FISHaBLOWFISHaTURTLEaHATCHING CHICKaBABY CHICKaFRONT-FACING BABY CHICKaBIRDaPENGUI",
    "NaKOALAaPOODLEaDROMEDARY CAMELaBACTRIAN CAMELaDOLPHINaMOUSE FACEaCOW FACEaTIGER FACEaRABBIT ",
    "FACEaCAT FACEaDRAGON FACEaSPOUTING WHALEaHORSE FACEaMONKEY FACEaDOG FACEaPIG FACEaFROG FACEa",
    "HAMSTER FACEaWOLF FACEaBEAR FACEaPANDA FACEbIG NOSEbAW PRINTSaCHIPMUNKaEYESdbARaNOSEaMOUTHaT",
    "ONGUEaWHITE UP POINTING BACKHAND INDEXgDOWN POINTING BACKHAND INDEXgLEFT POINTING BACKHAND I",
    "NDEXgRIGHT POINTING BACKHAND INDEXaFISTED HAND SIGNaWAVING HAND SIGNaOK HAND SIGNaTHUMBS UP ",
    "SIGNhDOWN SIGNaCLAPPING HANDS SIGNaOPEN HANDS SIGNaCROWNaWOMANS HATaEYEGLASSESaNECKTIEaT-SHI",
    "RTaJEANSaDRESSaKIMONOaBIKINIaWOMANS CLOTHESaPURSEaHANDBAGaPOUCHaMANS SHOEaATHLETIC SHOEaHIGH",
    "-HEELED SHOEaWOMANS SANDALhBOOTSaFOOTPRINTSaBUST IN SILHOUETTEeS IN SILHOUETTEbOYaGIRLaMANaW",
    "OMANaFAMILYaMAN AND WOMAN HOLDING HANDSaTWO MEN HOLDING HANDSeWOMEN HOLDING HANDSaPOLICE OFF",
    "ICERaWOMAN WITH BUNNY EARSaBRIDE WITH VEILaPERSON WITH BLOND HAIRaMAN WITH GUA PI MAOjTURBAN",
    "aOLDER MANgWOMANaBABYaCONSTRUCTION WORKERaPRINCESSaJAPANESE OGREjGOBLINaGHOSTaBABY ANGELaEXT",
    "RATERRESTRIAL ALIENaALIEN MONSTERaIMPaSKULLaINFORMATION DESK PERSONaGUARDSMANaDANCERaLIPSTIC",
    "KaNAIL POLISHaFACE MASSAGEaHAIRCUTaBARBER POLEaSYRINGEaPILLaKISS MARKaLOVE LETTERaRINGaGEM S",
    "TONEaKISSaBOUQUETaCOUPLE WITH HEARTaWEDDINGaBEATING HEARTbROKEN HEARTaTWO HEARTSaSPARKLING H",
    "EARTaGROWING HEARTaHEART WITH ARROWaBLUE HEARTaGREEN HEARTaYELLOW HEARTaPURPLE HEARTaHEART W",
    "ITH RIBBONaREVOLVING HEARTSaHEART DECORATIONaDIAMOND SHAPE WITH A DOT INSIDEaELECTRIC LIGHT ",
    "BULBaANGER SYMBOLaBOMBaSLEEPING SYMBOLaCOLLISION SYMBOLaSPLASHING SWEAT SYMBOLaDROPLETbASH S",
    "YMBOLaPILE OF POOaFLEXED BICEPSaDIZZY SYMBOLaSPEECH BALLOONaTHOUGHT BALLOONaWHITE FLOWERaHUN",
    "DRED POINTS SYMBOLaMONEY BAGaCURRENCY EXCHANGEaHEAVY DOLLAR SIGNaCREDIT CARDaBANKNOTE WITH Y",
    "EN SIGNoDOLLAR SIGNoEURO SIGNoPOUND SIGNaMONEY WITH WINGSaCHART WITH UPWARDS TREND AND YEN S",
    "IGNaSEATaPERSONAL COMPUTERaBRIEFCASEaMINIDISCaFLOPPY DISKaOPTICAL DISCaDVDaFILE FOLDERaOPEN ",
    "FILE FOLDERaPAGE WITH CURLfFACING UPaCALENDARaTEAR-OFF CALENDARaCARD INDEXbHART WITH UPWARDS",
    " TRENDlDOWNWARDS TRENDaBAR CHARTaCLIPBOARDaPUSHPINaROUND PUSHPINaPAPERCLIPaSTRAIGHT RULERaTR",
    "IANGULAR RULERaBOOKMARK TABSaLEDGERaNOTEBOOKi WITH DECORATIVE COVERaCLOSED BOOKaOPEN BOOKaGR",
    "EEN BOOKaBLUE BOOKaORANGE BOOKaBOOKSaNAME BADGEaSCROLLaMEMOaTELEPHONE RECEIVERaPAGERaFAX MAC",
    "HINEaSATELLITE ANTENNAaPUBLIC ADDRESS LOUDSPEAKERaCHEERING MEGAPHONEaOUTBOX TRAYaINBOX TRAYa",
    "PACKAGEaE-MAIL SYMBOLaINCOMING ENVELOPEaENVELOPE WITH DOWNWARDS ARROW ABOVEaCLOSED MAILBOX W",
    "ITH LOWERED FLAGuRAISED FLAGaOPEN MAILBOX WITH RAISED FLAGsLOWERED FLAGaPOSTBOXeAL HORNaNEWS",
    "PAPERaMOBILE PHONEm WITH RIGHTWARDS ARROW AT LEFTaVIBRATION MODEaMOBILE PHONE OFFaNO MOBILE ",
    "PHONESaANTENNA WITH BARSaCAMERAg WITH FLASHaVIDEO CAMERAaTELEVISIONaRADIOaVIDEOCASSETTEaFILM",
    " PROJECTORaPORTABLE STEREObRAYER BEADSaTWISTED RIGHTWARDS ARROWSaCLOCKWISE RIGHTWARDS AND LE",
    "FTWARDS OPEN CIRCLE ARROWSzzd WITH CIRCLED ONE OVERLAYkDOWNWARDS AND UPWARDS OPEN CIRCLE ARR",
    "OWSaANTICLOCKWISE DOWNWARDS AND UPWARDS OPEN CIRCLE ARROWSaLOW BRIGHTNESS SYMBOLaHIGH BRIGHT",
    "NESS SYMBOLaSPEAKER WITH CANCELLATION STROKEhh WITH ONE SOUND WAVEnTHREE SOUND WAVESaBATTERY",
    "aELECTRIC PLUGaLEFT-POINTING MAGNIFYING GLASSaRIGHT-POINTING MAGNIFYING GLASSaLOCK WITH INK ",
    "PENaCLOSED LOCK WITH KEYaKEYaLOCKaOPEN LOCKaBELLe WITH CANCELLATION STROKEbOOKMARKaLINK SYMB",
    "OLaRADIO BUTTONaBACK WITH LEFTWARDS ARROW ABOVEaEND WITH LEFTWARDS ARROW ABOVEaON WITH EXCLA",
    "MATION MARK WITH LEFT RIGHT ARROW ABOVEaSOON WITH RIGHTWARDS ARROW ABOVEaTOP WITH UPWARDS AR",
    "ROW ABOVEaNO ONE UNDER EIGHTEEN SYMBOLaKEYCAP TENaINPUT SYMBOL FOR LATIN CAPITAL LETTERSxSMA",
    "LL LETTERSrNUMBERSrSYMBOLSrLATIN LETTERSaFIREaELECTRIC TORCHaWRENCHaHAMMERaNUT AND BOLTaHOCH",
    "OaPISTOLaMICROSCOPEaTELESCOPEaCRYSTAL BALLaSIX POINTED STAR WITH MIDDLE DOTaJAPANESE SYMBOL ",
    "FOR BEGINNERaTRIDENT EMBLEMaBLACK SQUARE BUTTONaWHITE SQUARE BUTTONaLARGE RED CIRCLEgBLUE CI",
    "RCLEgORANGE DIAMONDgBLUE DIAMONDaSMALL ORANGE DIAMONDgBLUE DIAMONDaUP-POINTING RED TRIANGLEa",
    "DOWN-POINTING RED TRIANGLEaUP-POINTING SMALL RED TRIANGLEaDOWN-POINTING SMALL RED TRIANGLEaL",
    "OWER RIGHT SHADOWED WHITE CIRCLEaUPPER RIGHT SHADOWED WHITE CIRCLEaCIRCLED CROSS POMMEEbROSS",
    " POMMEE WITH HALF-CIRCLE BELOWmaNOTCHED LEFT SEMICIRCLE WITH THREE DOTSiRIGHT SEMICIRCLE WIT",
    "H THREE DOTSaSYMBOL FOR MARKS CHAPTERaWHITE LATIN CROSSaHEAVY LATIN CROSSaCELTIC CROSSaOM SY",
    "MBOLaDOVE OF PEACEaKAABAaMOSQUEaSYNAGOGUEaMENORAH WITH NINE BRANCHESaBOWL OF HYGIEIAaCLOCK F",
    "ACE ONE OCLOCKlTWO OCLOCKmHREE OCLOCKlFOUR OCLOCKmIVE OCLOCKlSIX OCLOCKmEVEN OCLOCKlEIGHT OC",
    "LOCKlNINE OCLOCKlTEN OCLOCKlELEVEN OCLOCKlTWELVE OCLOCKlONE-THIRTYlTWO-THIRTYmHREE-THIRTYlFO",
    "UR-THIRTYmIVE-THIRTYlSIX-THIRTYmEVEN-THIRTYlEIGHT-THIRTYlNINE-THIRTYlTEN-THIRTYlELEVEN-THIRT",
    "YlTWELVE-THIRTYaRIGHT SPEAKERn WITH ONE SOUND WAVEtTHREE SOUND WAVESaBULLHORNi WITH SOUND WA",
    "VESaRINGING BELLaBOOKaCANDLEaMANTELPIECE CLOCKaBLACK SKULL AND CROSSBONESaNO PIRACYaHOLEaMAN",
    " IN BUSINESS SUIT LEVITATINGaSLEUTH OR SPYaDARK SUNGLASSESaSPIDERg WEBaJOYSTICKaMAN DANCINGa",
    "LEFT HAND TELEPHONE RECEIVERaTELEPHONE RECEIVER WITH PAGEaRIGHT HAND TELEPHONE RECEIVERaWHIT",
    "E TOUCHTONE TELEPHONEaBLACK TOUCHTONE TELEPHONEaTELEPHONE ON TOP OF MODEMaCLAMSHELL MOBILE P",
    "HONEaBACK OF ENVELOPEaSTAMPED ENVELOPEaENVELOPE WITH LIGHTNINGaFLYING ENVELOPEaPEN OVER STAM",
    "PED ENVELOPEaLINKED PAPERCLIPSaBLACK PUSHPINaLOWER LEFT PENCILlBALLPOINT PENlFOUNTAIN PENlPA",
    "INTBRUSHlCRAYONbEFT WRITING HANDaTURNED OK HAND SIGNaRAISED HAND WITH FINGERS SPLAYEDbEVERSE",
    "D RAISED HAND WITH FINGERS SPLAYEDjTHUMBS UP SIGNqDOWN SIGNjVICTORY HANDjHAND WITH MIDDLE FI",
    "NGER EXTENDEDbAISED HAND WITH PART BETWEEN MIDDLE AND RING FINGERSaWHITE DOWN POINTING LEFT ",
    "HAND INDEXaSIDEWAYS WHITE LEFT POINTING INDEXpRIGHT POINTING INDEXjBLACK LEFT POINTING INDEX",
    "pRIGHT POINTING INDEXaBLACK LEFT POINTING BACKHAND INDEXgRIGHT POINTING BACKHAND INDEXaSIDEW",
    "AYS WHITE UP POINTING INDEXpDOWN POINTING INDEXjBLACK UP POINTING INDEXpDOWN POINTING INDEXa",
    "BLACK UP POINTING BACKHAND INDEXgDOWN POINTING BACKHAND INDEXgHEARTaDESKTOP COMPUTERaKEYBOAR",
    "D AND MOUSEaTHREE NETWORKED COMPUTERSaPRINTERbOCKET CALCULATORaBLACK HARD SHELL FLOPPY DISKa",
    "WHITE HARD SHELL FLOPPY DISKaSOFT SHELL FLOPPY DISKaTAPE CARTRIDGEaWIRED KEYBOARDaONE BUTTON",
    " MOUSEaTWO BUTTON MOUSEbHREE BUTTON MOUSEbRACKBALLaOLD PERSONAL COMPUTERaHARD DISKaSCREENaPR",
    "INTER ICONaFAX ICONaOPTICAL DISC ICONaDOCUMENT WITH TEXTs AND PICTUREoPICTUREaFRAME WITH PIC",
    "TURElTILESlAN XaBLACK FOLDERaFOLDERaOPEN FOLDERaCARD INDEX DIVIDERSfFILE BOXaFILE CABINETaEM",
    "PTY NOTEk PAGEnDaNOTEe PAGEhDaEMPTY DOCUMENTgPAGEkSaDOCUMENTaPAGEeSaWASTEBASKETaSPIRAL NOTE ",
    "PADhCALENDAR PADaDESKTOP WINDOWaMINIMIZEbAXIMIZEaOVERLAPaCLOCKWISE RIGHT AND LEFT SEMICIRCLE",
    " ARROWSbANCELLATION XaINCREASE FONT SIZE SYMBOLaDECREASE FONT SIZE SYMBOLaCOMPRESSIONaOLD KE",
    "YaROLLED-UP NEWSPAPERaPAGE WITH CIRCLED TEXTaSTOCK CHARTaDAGGER KNIFEaLIPSaSPEAKING HEAD IN ",
    "SILHOUETTEaTHREE RAYS ABOVElBELOWlLEFTlRIGHTaLEFT SPEECH BUBBLEaRIGHT SPEECH BUBBLEaTWO SPEE",
    "CH BUBBLESbHREE SPEECH BUBBLESaLEFT THOUGHT BUBBLEaRIGHT THOUGHT BUBBLEaLEFT ANGER BUBBLEaRI",
    "GHT ANGER BUBBLEaMOOD BUBBLEaLIGHTNING MOOD BUBBLEoaBALLOT BOX WITH BALLOThSCRIPT XhBOX WITH",
    " SCRIPT XjLD SCRIPT XjX WITH BOLD SCRIPT XaLIGHT CHECK MARKaBALLOT BOX WITH BOLD CHECKaWORLD",
    " MAPaMOUNT FUJIaTOKYO TOWERaSTATUE OF LIBERTYbILHOUETTE OF JAPANaMOYAIaGRINNING FACEn WITH S",
    "MILING EYESaFACE WITH TEARS OF JOYaSMILING FACE WITH OPEN MOUTHzd AND SMILING EYESziCOLD SWE",
    "ATziTIGHTLY-CLOSED EYESsHALOtORNSaWINKING FACEaSMILING FACE WITH SMILING EYESaFACE SAVOURING",
    " DELICIOUS FOODaRELIEVED FACEaSMILING FACE WITH HEART-SHAPED EYESsSUNGLASSESdRKING FACEaNEUT",
    "RAL FACEaEXPRESSIONLESS FACEaUNAMUSED FACEaFACE WITH COLD SWEATaPENSIVE FACEaCONFUSED FACEeO",
    "UNDED FACEaKISSING FACEaFACE THROWING A KISSaKISSING FACE WITH SMILING EYESsCLOSED EYESaFACE",
    " WITH STUCK-OUT TONGUEzb AND WINKING EYEzgTIGHTLY-CLOSED EYESaDISAPPOINTED FACEaWORRIED FACE",
    "aANGRY FACEaPOUTING FACEaCRYING FACEaPERSEVERING FACEaFACE WITH LOOK OF TRIUMPHaDISAPPOINTED",
    " BUT RELIEVED FACEaFROWNING FACE WITH OPEN MOUTHaANGUISHED FACEaFEARFUL FACEaWEARY FACEaSLEE",
    "PY FACEaTIRED FACEaGRIMACING FACEaLOUDLY CRYING FACEaFACE WITH OPEN MOUTHaHUSHED FACEaFACE W",
    "ITH OPEN MOUTH AND COLD SWEATfSCREAMING IN FEARaASTONISHED FACEaFLUSHED FACEaSLEEPING FACEaD",
    "IZZY FACEaFACE WITHOUT MOUTHj MEDICAL MASKaGRINNING CAT FACE WITH SMILING EYESaCAT FACE WITH",
    " TEARS OF JOYaSMILING CAT FACE WITH OPEN MOUTHwHEART-SHAPED EYESaCAT FACE WITH WRY SMILEaKIS",
    "SING CAT FACE WITH CLOSED EYESaPOUTING CAT FACEaCRYING CAT FACEaWEARY CAT FACEaSLIGHTLY FROW",
    "NING FACEjSMILING FACEaUPSIDE-DOWN FACEaFACE WITH ROLLING EYESkNO GOOD GESTUREkOK GESTUREaPE",
    "RSON BOWING DEEPLYaSEE-NO-EVIL MONKEYaHEAR-NO-EVIL MONKEYaSPEAK-NO-EVIL MONKEYaHAPPY PERSON ",
    "RAISING ONE HANDaPERSON RAISING BOTH HANDS IN CELEBRATIONhFROWNINGhWITH POUTING FACEmFOLDED ",
    "HANDSaNORTH WEST POINTING LEAFaSOUTH WEST POINTING LEAFaNORTH EAST POINTING LEAFaSOUTH EAST ",
    "POINTING LEAFaTURNED NORTH WEST POINTING LEAFhSOUTH WEST POINTING LEAFhNORTH EAST POINTING L",
    "EAFhSOUTH EAST POINTING LEAFaNORTH WEST POINTING VINE LEAFaSOUTH WEST POINTING VINE LEAFaNOR",
    "TH EAST POINTING VINE LEAFaSOUTH EAST POINTING VINE LEAFaHEAVY NORTH WEST POINTING VINE LEAF",
    "gSOUTH WEST POINTING VINE LEAFgNORTH EAST POINTING VINE LEAFgSOUTH EAST POINTING VINE LEAFaN",
    "ORTH WEST POINTING BUDaSOUTH WEST POINTING BUDaNORTH EAST POINTING BUDaSOUTH EAST POINTING B",
    "UDaHEAVY NORTH WEST POINTING BUDgSOUTH WEST POINTING BUDgNORTH EAST POINTING BUDgSOUTH EAST ",
    "POINTING BUDbOLLOW QUILT SQUARE ORNAMENTzd IN BLACK SQUAREaSOLID QUILT SQUARE ORNAMENTzc IN ",
    "BLACK SQUAREaLEFTWARDS ROCKETaUPWARDS ROCKETaRIGHTWARDS ROCKETaDOWNWARDS ROCKETaSCRIPT LIGAT",
    "URE ET ORNAMENTaHEAVY SCRIPT LIGATURE ET ORNAMENTaLIGATURE OPEN ET ORNAMENTaHEAVY LIGATURE O",
    "PEN ET ORNAMENTgAMPERSAND ORNAMENTaSWASH AMPERSAND ORNAMENTbANS-SERIF HEAVY DOUBLE TURNED CO",
    "MMA QUOTATION MARK ORNAMENTyCOMMA QUOTATION MARK ORNAMENTrLOW DOUBLE COMMA QUOTATION MARK OR",
    "NAMENTaHEAVY INTERROBANG ORNAMENTaSANS-SERIF INTERROBANG ORNAMENTaHEAVY SANS-SERIF INTERROBA",
    "NG ORNAMENTaVERY HEAVY SOLIDUSlREVERSE SOLIDUSaCHECKER BOARDaREVERSE CHECKER BOARDbOCKETaHEL",
    "ICOPTERaSTEAM LOCOMOTIVEaRAILWAY CARaHIGH-SPEED TRAINq WITH BULLET NOSEaTRAINaMETROaLIGHT RA",
    "ILaSTATIONaTRAMe CARaBUSaONCOMING BUSaTROLLEYBUSaBUS STOPaMINIBUSaAMBULANCEaFIRE ENGINEaPOLI",
    "CE CARaONCOMING POLICE CARaTAXIaONCOMING TAXIaAUTOMOBILEaONCOMING AUTOMOBILEaRECREATIONAL VE",
    "HICLEaDELIVERY TRUCKaARTICULATED LORRYaTRACTORaMONORAILcUNTAIN RAILWAYaSUSPENSION RAILWAYaMO",
    "UNTAIN CABLEWAYaAERIAL TRAMWAYaSHIPaROWBOATaSPEEDBOATaHORIZONTAL TRAFFIC LIGHTaVERTICAL TRAF",
    "FIC LIGHTaCONSTRUCTION SIGNaPOLICE CARS REVOLVING LIGHTaTRIANGULAR FLAG ON POSTaDOORaNO ENTR",
    "Y SIGNaSMOKING SYMBOLaNO SMOKING SYMBOLaPUT LITTER IN ITS PLACE SYMBOLaDO NOT LITTER SYMBOLa",
    "POTABLE WATER SYMBOLaNON-POTABLE WATER SYMBOLaBICYCLEaNO BICYCLESaBICYCLISTaMOUNTAIN BICYCLI",
    "STaPEDESTRIANaNO PEDESTRIANSaCHILDREN CROSSINGaMENS SYMBOLaWOMENS SYMBOLaRESTROOMaBABY SYMBO",
    "LaTOILETaWATER CLOSETaSHOWERaBATHeTUBaPASSPORT CONTROLaCUSTOMSaBAGGAGE CLAIMaLEFT LUGGAGEaTR",
    "IANGLE WITH ROUNDED CORNERSaPROHIBITED SIGNaCIRCLED INFORMATION SOURCEaBOYS SYMBOLaGIRLS SYM",
    "BOLaCOUCH AND LAMPaSLEEPING ACCOMMODATIONbHOPPING BAGSaBELLHOP BELLcDaPLACE OF WORSHIPaOCTAG",
    "ONAL SIGNaSHOPPING TROLLEYbTUPAaPAGODAaHINDU TEMPLEbUTaELEVATOR.....aPLAYGROUND SLIDEaWHEELa",
    "RING BUOYaHAMMER AND WRENCHaSHIELDaOIL DRUMaMOTORWAYaRAILWAY TRACKaMOTOR BOATaUP-POINTING MI",
    "LITARY AIRPLANEmAIRPLANEmSMALL AIRPLANEaSMALL AIRPLANEaNORTHEAST-POINTING AIRPLANEaAIRPLANE ",
    "DEPARTUREjARRIVING...aSATELLITEaONCOMING FIRE ENGINEaDIESEL LOCOMOTIVEaPASSENGER SHIPaSCOOTE",
    "RaMOTOR SCOOTERaCANOEaSLEDaFLYING SAUCERaSKATEBOARDaAUTO RICKSHAWaPICKUP TRUCKaROLLER SKATE.",
    "..aALCHEMICAL SYMBOL FOR QUINTESSENCEwAIRwFIREwEARTHwWATERwAQUAFORTISzb REGIAzh-2zcVITAEzh-2",
    "wVINEGARze-2zf3wSULFURwPHILOSOPHERS SULFURwBLACK SULFURwMERCURY SUBLIMATEzo-2zp3wCINNABARwSA",
    "LTwNITREwVITRIOLze-2wROCK SALTzg-2wGOLDwSILVERwIRON OREzf-2wCROCUS OF IRONwREGULUS OF IRONwC",
    "OPPER OREwIRON-COPPER OREwSUBLIMATE OF COPPERwCROCUS OF COPPERzn-2xOPPER ANTIMONIATEwSALT OF",
    " COPPER ANTIMONIATExUBLIMATE OF SALT OF COPPERwVERDIGRISwTIN OREwLEAD OREwANTIMONY OREwSUBLI",
    "MATE OF ANTIMONYxALT OF ANTIMONYxUBLIMATE OF SALT OF ANTIMONYwVINEGAR OF ANTIMONYwREGULUS OF",
    " ANTIMONYzq-2zeze-2zf3zf4wALKALIzd-2wMARCASITEwSAL-AMMONIACwARSENICwREALGARze-2wAURIPIGMENTw",
    "BISMUTH OREwTARTARzd-2wQUICK LIMEwBORAXzc-2zd3wALUMwOILwSPIRITwTINCTUREwGUMwWAXwPOWDERwCALXw",
    "TUTTYwCAPUT MORTUUMwSCEPTER OF JOVEwCADUCEUSwTRIDENTwSTARRED TRIDENTwLODESTONEwSOAPwURINEwHO",
    "RSE DUNGwASHESwPOT ASHESwBRICKwPOWDERED BRICKwAMALGAMwSTRATUM SUPER STRATUMzs-2xUBLIMATIONwP",
    "RECIPITATEwDISTILLzaSOLVEzf-2wPURIFYyTREFACTIONwCRUCIBLEzf-2zg3zg4zg5wALEMBICwBATH OF MARYzf",
    "VAPOURSwRETORTwHOURwNIGHTwDAY-NIGHTwMONTHwHALF DRAMzcOUNCE............aBLACK LEFT-POINTING I",
    "SOSCELES RIGHT TRIANGLEgUP-POINTING ISOSCELES RIGHT TRIANGLEgRIGHT-POINTING ISOSCELES RIGHT ",
    "TRIANGLEgDOWN-POINTING ISOSCELES RIGHT TRIANGLEgSLIGHTLY SMALL CIRCLEaMEDIUM BOLD WHITE CIRC",
    "LEaBOLD WHITE CIRCLEaHEAVY WHITE CIRCLEaVERY HEAVY WHITE CIRCLEaEXTREMELY HEAVY WHITE CIRCLE",
    "aWHITE CIRCLE CONTAINING BLACK SMALL CIRCLEaROUND TARGETaBLACK TINY SQUAREgSLIGHTLY SMALL SQ",
    "UAREaLIGHT WHITE SQUAREaMEDIUM WHITE SQUAREaBOLD WHITE SQUAREaHEAVY WHITE SQUAREaVERY HEAVY ",
    "WHITE SQUAREaEXTREMELY HEAVY WHITE SQUAREaWHITE SQUARE CONTAINING BLACK VERY SMALL SQUAREzfM",
    "EDIUM SQUAREaSQUARE TARGETaBLACK TINY DIAMONDgVERY SMALL DIAMONDgMEDIUM SMALL DIAMONDaWHITE ",
    "DIAMOND CONTAINING BLACK VERY SMALL DIAMONDzgMEDIUM DIAMONDaDIAMOND TARGETaBLACK TINY LOZENG",
    "EgVERY SMALL LOZENGEgMEDIUM SMALL LOZENGEaWHITE LOZENGE CONTAINING BLACK SMALL LOZENGEaTHIN ",
    "GREEK CROSSaLIGHT GREEK CROSSaMEDIUM GREEK CROSSaBOLD GREEK CROSSaVERY BOLD GREEK CROSSfHEAV",
    "Y GREEK CROSSaEXTREMELY HEAVY GREEK CROSSaTHIN SALTIREaLIGHT SALTIREaMEDIUM SALTIREaBOLD SAL",
    "TIREaHEAVY SALTIREaVERY HEAVY SALTIREaEXTREMELY HEAVY SALTIREaLIGHT FIVE SPOKED ASTERISKaMED",
    "IUM FIVE SPOKED ASTERISKaBOLD FIVE SPOKED ASTERISKaHEAVY FIVE SPOKED ASTERISKaVERY HEAVY FIV",
    "E SPOKED ASTERISKaEXTREMELY HEAVY FIVE SPOKED ASTERISKaLIGHT SIX SPOKED ASTERISKaMEDIUM SIX ",
    "SPOKED ASTERISKaBOLD SIX SPOKED ASTERISKaHEAVY SIX SPOKED ASTERISKaVERY HEAVY SIX SPOKED AST",
    "ERISKaEXTREMELY HEAVY SIX SPOKED ASTERISKaLIGHT EIGHT SPOKED ASTERISKaMEDIUM EIGHT SPOKED AS",
    "TERISKaBOLD EIGHT SPOKED ASTERISKaHEAVY EIGHT SPOKED ASTERISKaVERY HEAVY EIGHT SPOKED ASTERI",
    "SKaLIGHT THREE POINTED BLACK STARaMEDIUM THREE POINTED BLACK STARaTHREE POINTED BLACK STARaM",
    "EDIUM THREE POINTED PINWHEEL STARaLIGHT FOUR POINTED BLACK STARaMEDIUM FOUR POINTED BLACK ST",
    "ARaFOUR POINTED BLACK STARaMEDIUM FOUR POINTED PINWHEEL STARaREVERSE LIGHT FOUR POINTED PINW",
    "HEEL STARaLIGHT FIVE POINTED BLACK STARaHEAVY FIVE POINTED BLACK STARaMEDIUM SIX POINTED BLA",
    "CK STARaHEAVY SIX POINTED BLACK STARaSIX POINTED PINWHEEL STARaMEDIUM EIGHT POINTED BLACK ST",
    "ARaHEAVY EIGHT POINTED BLACK STARaVERY HEAVY EIGHT POINTED BLACK STARaHEAVY EIGHT POINTED PI",
    "NWHEEL STARaLIGHT TWELVE POINTED BLACK STARaHEAVY TWELVE POINTED BLACK STARvPINWHEEL STARaCI",
    "RCLED TRIANGLEaNEGATIVE CIRCLED TRIANGLEaCIRCLED SQUAREaNEGATIVE CIRCLED SQUARE.......aLARGE",
    " ORANGE CIRCLEgYELLOW CIRCLEgGREEN CIRCLEgPURPLE CIRCLEgBROWN CIRCLEgRED SQUAREgBLUE SQUAREg",
    "ORANGE SQUAREgYELLOW SQUAREgGREEN SQUAREgPURPLE SQUAREgBROWN SQUARE....aHEAVY EQUALS SIGN...",
    "............aLEFTWARDS ARROW WITH SMALL TRIANGLE ARROWHEADaUPWARDS ARROW WITH SMALL TRIANGLE",
    " ARROWHEADaRIGHTWARDS ARROW WITH SMALL TRIANGLE ARROWHEADaDOWNWARDS ARROW WITH SMALL TRIANGL",
    "E ARROWHEADaLEFTWARDS ARROW WITH MEDIUM TRIANGLE ARROWHEADaUPWARDS ARROW WITH MEDIUM TRIANGL",
    "E ARROWHEADaRIGHTWARDS ARROW WITH MEDIUM TRIANGLE ARROWHEADaDOWNWARDS ARROW WITH MEDIUM TRIA",
    "NGLE ARROWHEADaLEFTWARDS ARROW WITH LARGE TRIANGLE ARROWHEADaUPWARDS ARROW WITH LARGE TRIANG",
    "LE ARROWHEADaRIGHTWARDS ARROW WITH LARGE TRIANGLE ARROWHEADaDOWNWARDS ARROW WITH LARGE TRIAN",
    "GLE ARROWHEAD....aLEFTWARDS ARROW WITH SMALL EQUILATERAL ARROWHEADaUPWARDS ARROW WITH SMALL ",
    "EQUILATERAL ARROWHEADaRIGHTWARDS ARROW WITH SMALL EQUILATERAL ARROWHEADaDOWNWARDS ARROW WITH",
    " SMALL EQUILATERAL ARROWHEADaLEFTWARDS ARROW WITH EQUILATERAL ARROWHEADaUPWARDS ARROW WITH E",
    "QUILATERAL ARROWHEADaRIGHTWARDS ARROW WITH EQUILATERAL ARROWHEADaDOWNWARDS ARROW WITH EQUILA",
    "TERAL ARROWHEADaHEAVY LEFTWARDS ARROW WITH EQUILATERAL ARROWHEADgUPWARDS ARROW WITH EQUILATE",
    "RAL ARROWHEADgRIGHTWARDS ARROW WITH EQUILATERAL ARROWHEADgDOWNWARDS ARROW WITH EQUILATERAL A",
    "RROWHEADgLEFTWARDS ARROW WITH LARGE EQUILATERAL ARROWHEADgUPWARDS ARROW WITH LARGE EQUILATER",
    "AL ARROWHEADgRIGHTWARDS ARROW WITH LARGE EQUILATERAL ARROWHEADgDOWNWARDS ARROW WITH LARGE EQ",
    "UILATERAL ARROWHEADaLEFTWARDS TRIANGLE-HEADED ARROW WITH NARROW SHAFTaUPWARDS TRIANGLE-HEADE",
    "D ARROW WITH NARROW SHAFTaRIGHTWARDS TRIANGLE-HEADED ARROW WITH NARROW SHAFTaDOWNWARDS TRIAN",
    "GLE-HEADED ARROW WITH NARROW SHAFTaLEFTWARDS TRIANGLE-HEADED ARROW WITH MEDIUM SHAFTaUPWARDS",
    " TRIANGLE-HEADED ARROW WITH MEDIUM SHAFTaRIGHTWARDS TRIANGLE-HEADED ARROW WITH MEDIUM SHAFTa",
    "DOWNWARDS TRIANGLE-HEADED ARROW WITH MEDIUM SHAFTaLEFTWARDS TRIANGLE-HEADED ARROW WITH BOLD ",
    "SHAFTaUPWARDS TRIANGLE-HEADED ARROW WITH BOLD SHAFTaRIGHTWARDS TRIANGLE-HEADED ARROW WITH BO",
    "LD SHAFTaDOWNWARDS TRIANGLE-HEADED ARROW WITH BOLD SHAFTaLEFTWARDS TRIANGLE-HEADED ARROW WIT",
    "H HEAVY SHAFTaUPWARDS TRIANGLE-HEADED ARROW WITH HEAVY SHAFTaRIGHTWARDS TRIANGLE-HEADED ARRO",
    "W WITH HEAVY SHAFTaDOWNWARDS TRIANGLE-HEADED ARROW WITH HEAVY SHAFTaLEFTWARDS TRIANGLE-HEADE",
    "D ARROW WITH VERY HEAVY SHAFTaUPWARDS TRIANGLE-HEADED ARROW WITH VERY HEAVY SHAFTaRIGHTWARDS",
    " TRIANGLE-HEADED ARROW WITH VERY HEAVY SHAFTaDOWNWARDS TRIANGLE-HEADED ARROW WITH VERY HEAVY",
    " SHAFTaLEFTWARDS FINGER-POST ARROWaUPWARDS FINGER-POST ARROWaRIGHTWARDS FINGER-POST ARROWaDO",
    "WNWARDS FINGER-POST ARROWaLEFTWARDS SQUARED ARROWaUPWARDS SQUARED ARROWaRIGHTWARDS SQUARED A",
    "RROWaDOWNWARDS SQUARED ARROWaLEFTWARDS COMPRESSED ARROWaUPWARDS COMPRESSED ARROWaRIGHTWARDS ",
    "COMPRESSED ARROWaDOWNWARDS COMPRESSED ARROWaLEFTWARDS HEAVY COMPRESSED ARROWaUPWARDS HEAVY C",
    "OMPRESSED ARROWaRIGHTWARDS HEAVY COMPRESSED ARROWaDOWNWARDS HEAVY COMPRESSED ARROWaLEFTWARDS",
    " HEAVY ARROWaUPWARDS HEAVY ARROWaRIGHTWARDS HEAVY ARROWaDOWNWARDS HEAVY ARROW........aLEFTWA",
    "RDS SANS-SERIF ARROWaUPWARDS SANS-SERIF ARROWaRIGHTWARDS SANS-SERIF ARROWaDOWNWARDS SANS-SER",
    "IF ARROWaNORTH WEST SANS-SERIF ARROWgEAST SANS-SERIF ARROWaSOUTH EAST SANS-SERIF ARROWgWEST ",
    "SANS-SERIF ARROWaLEFT RIGHT SANS-SERIF ARROWaUP DOWN SANS-SERIF ARROW......aWIDE-HEADED LEFT",
    "WARDS LIGHT BARB ARROWmUPWARDS LIGHT BARB ARROWmRIGHTWARDS LIGHT BARB ARROWmDOWNWARDS LIGHT ",
    "BARB ARROWmNORTH WEST LIGHT BARB ARROWsEAST LIGHT BARB ARROWmSOUTH EAST LIGHT BARB ARROWsWES",
    "T LIGHT BARB ARROWmLEFTWARDS BARB ARROWmUPWARDS BARB ARROWmRIGHTWARDS BARB ARROWmDOWNWARDS B",
    "ARB ARROWmNORTH WEST BARB ARROWsEAST BARB ARROWmSOUTH EAST BARB ARROWsWEST BARB ARROWmLEFTWA",
    "RDS MEDIUM BARB ARROWmUPWARDS MEDIUM BARB ARROWmRIGHTWARDS MEDIUM BARB ARROWmDOWNWARDS MEDIU",
    "M BARB ARROWmNORTH WEST MEDIUM BARB ARROWsEAST MEDIUM BARB ARROWmSOUTH EAST MEDIUM BARB ARRO",
    "WsWEST MEDIUM BARB ARROWmLEFTWARDS HEAVY BARB ARROWmUPWARDS HEAVY BARB ARROWmRIGHTWARDS HEAV",
    "Y BARB ARROWmDOWNWARDS HEAVY BARB ARROWmNORTH WEST HEAVY BARB ARROWsEAST HEAVY BARB ARROWmSO",
    "UTH EAST HEAVY BARB ARROWsWEST HEAVY BARB ARROWmLEFTWARDS VERY HEAVY BARB ARROWmUPWARDS VERY",
    " HEAVY BARB ARROWmRIGHTWARDS VERY HEAVY BARB ARROWmDOWNWARDS VERY HEAVY BARB ARROWmNORTH WES",
    "T VERY HEAVY BARB ARROWsEAST VERY HEAVY BARB ARROWmSOUTH EAST VERY HEAVY BARB ARROWsWEST VER",
    "Y HEAVY BARB ARROW........aLEFTWARDS TRIANGLE ARROWHEADaUPWARDS TRIANGLE ARROWHEADaRIGHTWARD",
    "S TRIANGLE ARROWHEADaDOWNWARDS TRIANGLE ARROWHEADaLEFTWARDS WHITE ARROW WITHIN TRIANGLE ARRO",
    "WHEADaUPWARDS WHITE ARROW WITHIN TRIANGLE ARROWHEADaRIGHTWARDS WHITE ARROW WITHIN TRIANGLE A",
    "RROWHEADaDOWNWARDS WHITE ARROW WITHIN TRIANGLE ARROWHEADaLEFTWARDS ARROW WITH NOTCHED TAILaU",
    "PWARDS ARROW WITH NOTCHED TAILaRIGHTWARDS ARROW WITH NOTCHED TAILaDOWNWARDS ARROW WITH NOTCH",
    "ED TAILaHEAVY ARROW SHAFT WIDTH ONEyTWO THIRDSyONE HALFzdTHIRDaLEFTWARDS BOTTOM-SHADED WHITE",
    " ARROWaRIGHTWARDS BOTTOM SHADED WHITE ARROWaLEFTWARDS TOP SHADED WHITE ARROWaRIGHTWARDS TOP ",
    "SHADED WHITE ARROWaLEFTWARDS LEFT-SHADED WHITE ARROWaRIGHTWARDS RIGHT-SHADED WHITE ARROWaLEF",
    "TWARDS RIGHT-SHADED WHITE ARROWaRIGHTWARDS LEFT-SHADED WHITE ARROWaLEFTWARDS BACK-TILTED SHA",
    "DOWED WHITE ARROWaRIGHTWARDS BACK-TILTED SHADOWED WHITE ARROWaLEFTWARDS FRONT-TILTED SHADOWE",
    "D WHITE ARROWaRIGHTWARDS FRONT-TILTED SHADOWED WHITE ARROWaWHITE ARROW SHAFT WIDTH ONEyTWO T",
    "HIRDS..aARROW POINTING UPWARDS THEN NORTH WESTpRIGHTWARDS THEN CURVING SOUTH WEST"]),
  (0x1F900, ["aCIRCLED CROSS FORMEE WITH FOUR DOTSzbTWO DOTSuaLEFT HALF CIRCLE WITH FOUR DOTSwTHR",
    "EE DOTSxWO DOTSwDOTqaDOWNWARD FACING HOOKqNOTCHED HOOKqHOOK WITH DOTqNOTCHED HOOK WITH DOTaP",
    "INCHED FINGERSaWHITE HEARTaBROWN HEARTaPINCHING HANDaZIPPER-MOUTH FACEaMONEY-MOUTH FACEaFACE",
    " WITH THERMOMETERaNERD FACEaTHINKING FACEaFACE WITH HEAD-BANDAGEaROBOT FACEaHUGGING FACEaSIG",
    "N OF THE HORNSaCALL ME HANDaRAISED BACK OF HANDaLEFT-FACING FISTaRIGHT-FACING FISTaHANDSHAKE",
    "e WITH INDEX AND MIDDLE FINGERS CROSSEDaI LOVE YOU HAND SIGNaFACE WITH COWBOY HATaCLOWN FACE",
    "aNAUSEATED FACEaROLLING ON THE FLOOR LAUGHINGaDROOLING FACEaLYING FACEaFACE PALMaSNEEZING FA",
    "CEaFACE WITH ONE EYEBROW RAISEDaGRINNING FACE WITH STAR EYEStONE LARGE AND ONE SMALL EYEaFAC",
    "E WITH FINGER COVERING CLOSED LIPSaSERIOUS FACE WITH SYMBOLS COVERING MOUTHbMILING FACE WITH",
    " SMILING EYES AND HAND COVERING MOUTHaFACE WITH OPEN MOUTH VOMITINGaSHOCKED FACE WITH EXPLOD",
    "ING HEADaPREGNANT WOMANaBREAST-FEEDINGaPALMS UP TOGETHERaSELFIEaPRINCEaMAN IN TUXEDObOTHER C",
    "HRISTMASaSHRUGaPERSON DOING CARTWHEELaJUGGLINGaFENCERaMODERN PENTATHLONaWRESTLERSbATER POLOa",
    "HANDBALLaDIVING MASKaWILTED FLOWERaDRUM WITH DRUMSTICKSaCLINKING GLASSESaTUMBLER GLASSaSPOON",
    "aGOAL NETaRIFLEaFIRST PLACE MEDALaSECOND PLACE MEDALaTHIRD PLACE MEDALaBOXING GLOVEaMARTIAL ",
    "ARTS UNIFORMaCURLING STONEaLACROSSE STICK AND BALLaSOFTBALLaFLYING DISCaCROISSANTaAVOCADOaCU",
    "CUMBERaBACONaPOTATOaCARROTaBAGUETTE BREADaGREEN SALADaSHALLOW PAN OF FOODbTUFFED FLATBREADaE",
    "GGaGLASS OF MILKaPEANUTSaKIWIFRUITaPANCAKESaDUMPLINGaFORTUNE COOKIEaTAKEOUT BOXaCHOPSTICKSaB",
    "OWL WITH SPOONaCUP WITH STRAWbOCONUTaBROCCOLIaPIEbRETZELaCUT OF MEATaSANDWICHaCANNED FOODaLE",
    "AFY GREENaMANGObOON CAKEaBAGELaSMILING FACE WITH SMILING EYES AND THREE HEARTSaYAWNING FACEa",
    "SMILING FACE WITH TEARaFACE WITH PARTY HORN AND PARTY HATkUNEVEN EYES AND WAVY MOUTHaOVERHEA",
    "TED FACEaFREEZING FACEaNINJAaDISGUISED FACEaFACE HOLDING BACK TEARSfWITH PLEADING EYESaSARIa",
    "LAB COATaGOGGLESaHIKING BOOTaFLAT SHOEaCRABaLION FACEaSCORPIONaTURKEYaUNICORN FACEaEAGLEaDUC",
    "KaBATaSHARKaOWLaFOX FACEaBUTTERFLYaDEERaGORILLAaLIZARDaRHINOCEROSaSHRIMPbQUIDaGIRAFFE FACEaZ",
    "EBRA FACEaHEDGEHOGaSAUROPODaT-REXaCRICKETaKANGAROOaLLAMAaPEACOCKaHIPPOPOTAMUSaPARROTaRACCOON",
    "aLOBSTERaMOSQUITObICROBEaBADGERaSWANaMAMMOTHaDODOaSLOTHaOTTERbRANGUTANaSKUNKaFLAMINGOaOYSTER",
    "aBEAVERbISONaSEALaGUIDE DOGaPROBING CANEaEMOJI COMPONENT RED HAIRqCURLY HAIRqBALDqWHITE HAIR",
    "aBONEaLEGaFOOTaTOOTHaSUPERHEROfVILLAINbAFETY VESTaEAR WITH HEARING AIDaMOTORIZED WHEELCHAIRb",
    "ANUAL WHEELCHAIRbECHANICAL ARMlLEGaCHEESE WEDGEbUPCAKEaSALT SHAKERaBEVERAGE BOXaGARLICaONION",
    "aFALAFELaWAFFLEaBUTTERaMATE DRINKaICE CUBEaBUBBLE TEAaTROLLaSTANDING PERSONaKNEELING PERSONa",
    "DEAF PERSONaFACE WITH MONOCLEaADULTaCHILDaOLDER ADULTaBEARDED PERSONaPERSON WITH HEADSCARFhI",
    "N STEAMY ROOMhCLIMBINGhIN LOTUS POSITIONaMAGEaFAIRYaVAMPIREaMERPERSONaELFaGENIEaZOMBIEaBRAIN",
    "aORANGE HEARTaBILLED CAPaSCARFaGLOVESaCOATaSOCKSaRED GIFT ENVELOPEaFIRECRACKERaJIGSAW PUZZLE",
    " PIECEaTEST TUBEaPETRI DISHaDNA DOUBLE HELIXaCOMPASSaABACUSaFIRE EXTINGUISHERaTOOLBOXaBRICKa",
    "MAGNETaLUGGAGEbOTION BOTTLEaSPOOL OF THREADaBALL OF YARNaSAFETY PINaTEDDY BEARaBROOMbASKETaR",
    "OLL OF PAPERaBAR OF SOAPaSPONGEaRECEIPTaNAZAR AMULETbEUTRAL CHESS KINGoQUEENoROOKoBISHOPoKNI",
    "GHToPAWNaWHITE CHESS KNIGHT ROTATED FORTY-FIVE DEGREESaBLACK CHESS KNIGHT ROTATED FORTY-FIVE",
    " DEGREESaNEUTRAL CHESS KNIGHT ROTATED FORTY-FIVE DEGREESaWHITE CHESS KING ROTATED NINETY DEG",
    "REESmQUEEN ROTATED NINETY DEGREESmROOK ROTATED NINETY DEGREESmBISHOP ROTATED NINETY DEGREESm",
    "KNIGHT ROTATED NINETY DEGREESmPAWN ROTATED NINETY DEGREESaBLACK CHESS KING ROTATED NINETY DE",
    "GREESmQUEEN ROTATED NINETY DEGREESmROOK ROTATED NINETY DEGREESmBISHOP ROTATED NINETY DEGREES",
    "mKNIGHT ROTATED NINETY DEGREESmPAWN ROTATED NINETY DEGREESaNEUTRAL CHESS KING ROTATED NINETY",
    " DEGREESoQUEEN ROTATED NINETY DEGREESoROOK ROTATED NINETY DEGREESoBISHOP ROTATED NINETY DEGR",
    "EESoKNIGHT ROTATED NINETY DEGREESoPAWN ROTATED NINETY DEGREESaWHITE CHESS KNIGHT ROTATED ONE",
    " HUNDRED THIRTY-FIVE DEGREESaBLACK CHESS KNIGHT ROTATED ONE HUNDRED THIRTY-FIVE DEGREESaNEUT",
    "RAL CHESS KNIGHT ROTATED ONE HUNDRED THIRTY-FIVE DEGREESaWHITE CHESS TURNED KINGtQUEENtROOKt",
    "BISHOPtKNIGHTtPAWNaBLACK CHESS TURNED KINGtQUEENtROOKtBISHOPtKNIGHTtPAWNaNEUTRAL CHESS TURNE",
    "D KINGvQUEENvROOKvBISHOPvKNIGHTvPAWNaWHITE CHESS KNIGHT ROTATED TWO HUNDRED TWENTY-FIVE DEGR",
    "EESaBLACK CHESS KNIGHT ROTATED TWO HUNDRED TWENTY-FIVE DEGREESaNEUTRAL CHESS KNIGHT ROTATED ",
    "TWO HUNDRED TWENTY-FIVE DEGREESaWHITE CHESS KING ROTATED TWO HUNDRED SEVENTY DEGREESmQUEEN R",
    "OTATED TWO HUNDRED SEVENTY DEGREESmROOK ROTATED TWO HUNDRED SEVENTY DEGREESmBISHOP ROTATED T",
    "WO HUNDRED SEVENTY DEGREESmKNIGHT ROTATED TWO HUNDRED SEVENTY DEGREESmPAWN ROTATED TWO HUNDR",
    "ED SEVENTY DEGREESaBLACK CHESS KING ROTATED TWO HUNDRED SEVENTY DEGREESmQUEEN ROTATED TWO HU",
    "NDRED SEVENTY DEGREESmROOK ROTATED TWO HUNDRED SEVENTY DEGREESmBISHOP ROTATED TWO HUNDRED SE",
    "VENTY DEGREESmKNIGHT ROTATED TWO HUNDRED SEVENTY DEGREESmPAWN ROTATED TWO HUNDRED SEVENTY DE",
    "GREESaNEUTRAL CHESS KING ROTATED TWO HUNDRED SEVENTY DEGREESoQUEEN ROTATED TWO HUNDRED SEVEN",
    "TY DEGREESoROOK ROTATED TWO HUNDRED SEVENTY DEGREESoBISHOP ROTATED TWO HUNDRED SEVENTY DEGRE",
    "ESoKNIGHT ROTATED TWO HUNDRED SEVENTY DEGREESoPAWN ROTATED TWO HUNDRED SEVENTY DEGREESaWHITE",
    " CHESS KNIGHT ROTATED THREE HUNDRED FIFTEEN DEGREESaBLACK CHESS KNIGHT ROTATED THREE HUNDRED",
    " FIFTEEN DEGREESaNEUTRAL CHESS KNIGHT ROTATED THREE HUNDRED FIFTEEN DEGREESaWHITE CHESS EQUI",
    "HOPPERaBLACK CHESS EQUIHOPPERaNEUTRAL CHESS EQUIHOPPERaWHITE CHESS EQUIHOPPER ROTATED NINETY",
    " DEGREESaBLACK CHESS EQUIHOPPER ROTATED NINETY DEGREESaNEUTRAL CHESS EQUIHOPPER ROTATED NINE",
    "TY DEGREESaWHITE CHESS KNIGHT-QUEENtROOKtBISHOPaBLACK CHESS KNIGHT-QUEENtROOKtBISHOP........",
    "....aXIANGQI RED GENERALmMANDARINmELEPHANTmHORSEmCHARIOTnANNONmSOLDIERiBLACK GENERALoMANDARI",
    "NoELEPHANToHORSEoCHARIOTpANNONoSOLDIER..aBALLET SHOESaONE-PIECE SWIMSUITaBRIEFSaSHORTSaTHONG",
    " SANDAL...aDROP OF BLOODaADHESIVE BANDAGEaSTETHOSCOPEaX-RAYaCRUTCH...aYO-YOaKITEaPARACHUTEaB",
    "OOMERANGaMAGIC WANDaPINATAaNESTING DOLLS.........aRINGED PLANETaCHAIRaRAZORaAXEaDIYA LAMPaBA",
    "NJOaMILITARY HELMETaACCORDIONaLONG DRUMaCOINbARPENTRY SAWaSCREWDRIVERaLADDERaHOOKaMIRRORaWIN",
    "DOWaPLUNGERaSEWING NEEDLEaKNOTaBUCKETaMOUSE TRAPaTOOTHBRUSHaHEADSTONEaPLACARDaROCKaMIRROR BA",
    "LLaIDENTIFICATION CARDaLOW BATTERYaHAMSA...aFLYaWORMaBEETLEaCOCKROACHaPOTTED PLANTaWOODaFEAT",
    "HERaLOTUSaCORALaEMPTY NESTaNEST WITH EGGS.....aANATOMICAL HEARTaLUNGSaPEOPLE HUGGINGbREGNANT",
    " MANjPERSONbERSON WITH CROWN..........aBLUEBERRIESbELL PEPPERaOLIVEaFLATBREADaTAMALEaFONDUEa",
    "TEAPOTaPOURING LIQUIDaBEANSaJAR......aMELTING FACEaSALUTING FACEaFACE WITH OPEN EYES AND HAN",
    "D OVER MOUTHkPEEKING EYEkDIAGONAL MOUTHaDOTTED LINE FACEaBITING LIPbUBBLES........aHAND WITH",
    " INDEX FINGER AND THUMB CROSSEDaRIGHTWARDS HANDaLEFTWARDS HANDaPALM DOWN HANDfUP HANDaINDEX ",
    "POINTING AT THE VIEWERaHEART HANDS.........aBLOCK SEXTANT-1o2o12o3o13o23o123o4o14o24o124o34o",
    "134o234o1234o5o15o25o125o35o235o1235o45o145o245o1245o345o1345o2345o12345o6o16o26o126o36o136o",
    "236o1236o46o146p246o346o1346o2346o12346o56o156o256o1256o356o1356o2356o12356o456o1456o2456o12",
    "456o3456o13456o23456aLOWER LEFT BLOCK DIAGONAL LOWER MIDDLE LEFT TO LOWER CENTREzzdRIGHTzbUP",
    "PER MIDDLE LEFT TO LOWER CENTREzzdRIGHTzhLEFT TO LOWER CENTREgRIGHT BLOCK DIAGONAL UPPER MID",
    "DLE LEFT TO UPPER CENTREzzeRIGHTzcLOWER MIDDLE LEFT TO UPPER CENTREzzeRIGHTziLEFT TO UPPER C",
    "ENTREziMIDDLE LEFT TO UPPER MIDDLE RIGHTziCENTRE TO LOWER MIDDLE RIGHTziLEFT TO LOWER MIDDLE",
    " RIGHTziCENTRE TO UPPER MIDDLE RIGHTziLEFT TO UPPER MIDDLE RIGHTziCENTRE TO UPPER RIGHTgLEFT",
    " BLOCK DIAGONAL UPPER CENTRE TO UPPER MIDDLE RIGHTzhLEFT TO UPPER MIDDLE RIGHTzhCENTRE TO LO",
    "WER MIDDLE RIGHTzhLEFT TO LOWER MIDDLE RIGHTzhCENTRE TO LOWER RIGHTzhMIDDLE LEFT TO LOWER MI",
    "DDLE RIGHTaUPPER RIGHT BLOCK DIAGONAL LOWER MIDDLE LEFT TO LOWER CENTREzzeRIGHTzcUPPER MIDDL",
    "E LEFT TO LOWER CENTREzzeRIGHTziLEFT TO LOWER CENTREgLEFT BLOCK DIAGONAL UPPER MIDDLE LEFT T",
    "O UPPER CENTREzzdRIGHTzbLOWER MIDDLE LEFT TO UPPER CENTREzzdRIGHTzhLEFT TO UPPER CENTREzhMID",
    "DLE LEFT TO UPPER MIDDLE RIGHTzhCENTRE TO LOWER MIDDLE RIGHTzhLEFT TO LOWER MIDDLE RIGHTzhCE",
    "NTRE TO UPPER MIDDLE RIGHTzhLEFT TO UPPER MIDDLE RIGHTzhCENTRE TO UPPER RIGHTgRIGHT BLOCK DI",
    "AGONAL UPPER CENTRE TO UPPER MIDDLE RIGHTziLEFT TO UPPER MIDDLE RIGHTziCENTRE TO LOWER MIDDL",
    "E RIGHTziLEFT TO LOWER MIDDLE RIGHTziCENTRE TO LOWER RIGHTziMIDDLE LEFT TO LOWER MIDDLE RIGH",
    "TgAND RIGHT AND LOWER TRIANGULAR THREE QUARTERS BLOCKaLEFT AND LOWER AND RIGHT TRIANGULAR TH",
    "REE QUARTERS BLOCKaUPPER AND LEFT AND LOWER TRIANGULAR THREE QUARTERS BLOCKaLEFT AND UPPER A",
    "ND RIGHT TRIANGULAR THREE QUARTERS BLOCKfTRIANGULAR ONE QUARTER BLOCKaUPPER TRIANGULAR ONE Q",
    "UARTER BLOCKaRIGHT TRIANGULAR ONE QUARTER BLOCKaLOWER TRIANGULAR ONE QUARTER BLOCKaVERTICAL ",
    "ONE EIGHTH BLOCK-2zb3zb4zb5zb6zb7aHORIZONTAL ONE EIGHTH BLOCK-2zd3zd4zd5zd6zd7aLEFT AND LOWE",
    "R ONE EIGHTH BLOCKjUPPER ONE EIGHTH BLOCKaRIGHT AND UPPER ONE EIGHTH BLOCKkLOWER ONE EIGHTH ",
    "BLOCKaUPPER AND LOWER ONE EIGHTH BLOCKaHORIZONTAL ONE EIGHTH BLOCK-1358aUPPER ONE QUARTER BL",
    "OCKgTHREE EIGHTHS BLOCKgFIVE EIGHTHS BLOCKgTHREE QUARTERS BLOCKgSEVEN EIGHTHS BLOCKaRIGHT ON",
    "E QUARTER BLOCKgTHREE EIGHTHS BLOCKgFIVE EIGHTHS BLOCKgTHREE QUARTERS BLOCKgSEVEN EIGHTHS BL",
    "OCKaLEFT HALF MEDIUM SHADEaRIGHT HALF MEDIUM SHADEaUPPER HALF MEDIUM SHADEaLOWER HALF MEDIUM",
    " SHADEaINVERSE MEDIUM SHADEaUPPER HALF BLOCK AND LOWER HALF INVERSE MEDIUM SHADElINVERSE MED",
    "IUM SHADE AND LOWER HALF BLOCK.aLEFT HALF INVERSE MEDIUM SHADE AND RIGHT HALF BLOCKaCHECKER ",
    "BOARD FILLaINVERSE CHECKER BOARD FILLaHEAVY HORIZONTAL FILLaUPPER LEFT TO LOWER RIGHT FILLgR",
    "IGHT TO LOWER LEFT FILLgAND LOWER TRIANGULAR HALF BLOCKaLEFT AND RIGHT TRIANGULAR HALF BLOCK",
    "aUPPER LEFT TRIANGULAR MEDIUM SHADEgRIGHT TRIANGULAR MEDIUM SHADEaLOWER RIGHT TRIANGULAR MED",
    "IUM SHADEgLEFT TRIANGULAR MEDIUM SHADEaBOX DRAWINGS LIGHT DIAGONAL UPPER CENTRE TO MIDDLE LE",
    "FTzzbRIGHTzdMIDDLE LEFT TO LOWER CENTREzkRIGHT TO LOWER CENTREzdUPPER CENTRE TO MIDDLE LEFT ",
    "TO LOWER CENTREzzbRIGHT TO LOWER CENTREzdMIDDLE LEFT TO LOWER CENTRE TO MIDDLE RIGHTzsUPPER ",
    "CENTRE TO MIDDLE RIGHTzdUPPER CENTRE TO MIDDLE LEFT AND MIDDLE RIGHT TO LOWER CENTREzzbRIGHT",
    " AND MIDDLE LEFT TO LOWER CENTREzzhTO LOWER CENTRE TO MIDDLE LEFTzzbLEFT TO LOWER CENTRE TO ",
    "MIDDLE RIGHTzdMIDDLE LEFT TO UPPER CENTRE TO MIDDLE RIGHT TO LOWER CENTREzkRIGHT TO UPPER CE",
    "NTRE TO MIDDLE LEFT TO LOWER CENTREzdDIAMONDtHORIZONTAL WITH VERTICAL STROKEaARROWHEAD-SHAPE",
    "D POINTERaINVERSE CHECK MARKaLEFT HALF RUNNING MANaRIGHT HALF RUNNING MANaINVERSE DOWNWARDS ",
    "ARROW WITH TIP LEFTWARDSaLEFTWARDS ARROW AND UPPER AND LOWER ONE EIGHTH BLOCKaRIGHTWARDS ARR",
    "OW AND UPPER AND LOWER ONE EIGHTH BLOCKaDOWNWARDS ARROW AND RIGHT ONE EIGHTH BLOCKaUPWARDS A",
    "RROW AND RIGHT ONE EIGHTH BLOCKaLEFT HALF FOLDERaRIGHT HALF FOLDERaVOIDED GREEK CROSSaRIGHT ",
    "OPEN SQUARED DOTaNEGATIVE DIAGONAL CROSSsMIDDLE RIGHT TO LOWER CENTREsDIAMONDaWHITE HEAVY SA",
    "LTIRE WITH ROUNDED CORNERSaLEFT THIRD WHITE RIGHT POINTING INDEXaMIDDLE THIRD WHITE RIGHT PO",
    "INTING INDEXaRIGHT THIRD WHITE RIGHT POINTING INDEXaNEGATIVE SQUARED QUESTION MARKaSTICK FIG",
    "UREm WITH ARMS RAISEDnLEANING LEFTvRIGHTnWITH DRESSaWHITE UP-POINTING CHEVRON"]),
  (0x1FBF0, ["aSEGMENTED DIGIT ZEROqONEqTWOrHREEqFOURrIVEqSIXrEVENqEIGHTqNINE"]),
  (0xE0001, ["aLANGUAGE TAG"]),
  (0xE0020, ["aTAG SPACEeEXCLAMATION MARKeQUOTATION MARKeNUMBER SIGNeDOLLAR SIGNePERCENT SIGNeAMP",
    "ERSANDfPOSTROPHEeLEFT PARENTHESISeRIGHT PARENTHESISeASTERISKePLUS SIGNeCOMMAeHYPHEN-MINUSeFU",
    "LL STOPeSOLIDUSeDIGIT ZEROkONEkTWOlHREEkFOURlIVEkSIXlEVENkEIGHTkNINEeCOLONeSEMICOLONeLESS-TH",
    "AN SIGNeEQUALS SIGNeGREATER-THAN SIGNeQUESTION MARKeCOMMERCIAL ATeLATIN CAPITAL LETTER AzaBz",
    "aCzaDzaEzaFzaGzaHzaIzaJzaKzaLzaMzaNzaOzaPzaQzaRzaSzaTzaUzaVzaWzaXzaYzaZfEFT SQUARE BRACKETeR",
    "EVERSE SOLIDUSfIGHT SQUARE BRACKETeCIRCUMFLEX ACCENTeLOW LINEeGRAVE ACCENTeLATIN SMALL LETTE",
    "R AxBxCxDxExFxGxHxIxJxKxLxMxNxOxPxQxRxSxTxUxVxWxXxYxZfEFT CURLY BRACKETeVERTICAL LINEeRIGHT ",
    "CURLY BRACKETeTILDEaCANCEL TAG"]),
  (0xE0100, ["aVARIATION SELECTOR-17u8u9t20u1u2u3u4u5u6u7u8u9t30u1u2u3u4u5u6u7u8u9t40u1u2u3u4u5u6",
    "u7u8u9t50u1u2u3u4u5u6u7u8u9t60u1u2u3u4u5u6u7u8u9t70u1u2u3u4u5u6u7u8u9t80u1u2u3u4u5u6u7u8u9t9",
    "0u1u2u3u4u5u6u7u8u9t100v1v2v3v4v5v6v7v8v9u10v1v2v3v4v5v6v7v8v9u20v1v2v3v4v5v6v7v8v9u30v1v2v3",
    "v4v5v6v7v8v9u40v1v2v3v4v5v6v7v8v9u50v1v2v3v4v5v6v7v8v9u60v1v2v3v4v5v6v7v8v9u70v1v2v3v4v5v6v7",
    "v8v9u80v1v2v3v4v5v6v7v8v9u90v1v2v3v4v5v6v7v8v9t200v1v2v3v4v5v6v7v8v9u10v1v2v3v4v5v6v7v8v9u20",
    "v1v2v3v4v5v6v7v8v9u30v1v2v3v4v5v6v7v8v9u40v1v2v3v4v5v6v7v8v9u50v1v2v3v4v5v6"])]

/-- Other names of characters, among them those of control characters. -/
def aliasBlocks : List (Nat × List String) := [
  (0x0, ["aNULLaSTART OF HEADINGjTEXTaEND OF TEXTiRANSMISSIONcQUIRYaACKNOWLEDGEbLERTaBACKSPACEaCH",
    "ARACTER TABULATIONaLINE FEEDfTABULATIONaFORM FEEDaCARRIAGE RETURNaSHIFT OUTgINaDATA LINK ESC",
    "APEbEVICE CONTROL ONEpTWOqHREEpFOURaNEGATIVE ACKNOWLEDGEaSYNCHRONOUS IDLEaEND OF TRANSMISSIO",
    "N BLOCKaCANCELaEND OF MEDIUMaSUBSTITUTEaESCAPEaINFORMATION SEPARATOR FOURwTHREExWOwONEaSP"]),
  (0x0, ["aNULaSOHbTXaETXbOTbNQaACKaBELbSaHORIZONTAL TABULATIONaNEW LINEaVERTICAL TABULATIONaFFaC",
    "RaLOCKING-SHIFT ONEoZEROaDLEbC1c2c3c4aNAKaSYNaETBaCANaEOMaSUBaESCaFILE SEPARATORaGROUP SEPAR",
    "ATORaRECORD SEPARATORaUNIT SEPARATOR"]),
  (0x9, ["aHTaEND OF LINEaVT..aSObI"]),
  (0x9, ["aTABaLF"]),
  (0xA, ["aNL"]),
  (0xA, ["aEOL"]),
  (0x1C, ["aFSaGSaRSaUS"]),
  (0x7F, ["aDELETEaPADDING CHARACTERaHIGH OCTET PRESETaBREAK PERMITTED HEREaNO BREAK HEREaINDEXaN",
    "EXT LINEaSTART OF SELECTED AREAaEND OF SELECTED AREAaCHARACTER TABULATION SETvWITH JUSTIFICA",
    "TIONaLINE TABULATION SETaPARTIAL LINE FORWARDnBACKWARDaREVERSE LINE FEEDaSINGLE SHIFT TWOoHR",
    "EEaDEVICE CONTROL STRINGaPRIVATE USE ONEmTWOaSET TRANSMIT STATEaCANCEL CHARACTERaMESSAGE WAI",
    "TINGaSTART OF GUARDED AREAaEND OF GUARDED AREAaSTART OF STRINGbINGLE GRAPHIC CHARACTER INTRO",
    "DUCERhCHARACTER INTRODUCERaCONTROL SEQUENCE INTRODUCERaSTRING TERMINATORaOPERATING SYSTEM CO",
    "MMANDaPRIVACY MESSAGEaAPPLICATION PROGRAM COMMANDaNBSP"]),
  (0x7F, ["aDELaPADaHOPaBPHaNBHaINDaNELaSSAaESAaHORIZONTAL TABULATION SETwWITH JUSTIFICATIONaVERT",
    "ICAL TABULATION SETaPARTIAL LINE DOWNnUPaREVERSE INDEXaSINGLE-SHIFT-2n3aDCSaPRIVATE USE-1m2a",
    "STSaCCHaMWaSTART OF PROTECTED AREAaEND OF PROTECTED AREAaSOSbGCbCIaCSIaSTaOSCaPMaAPC"]),
  (0x88, ["aHTScJaVTSaPLDcUaRIaSS2c3.aPU1c2...aSPAaEPA"]),
  (0xAD, ["aSHY"]),
  (0x1A2, ["aLATIN CAPITAL LETTER GHAgSMALL LETTER GHA"]),
  (0x34F, ["aCGJ"]),
  (0x61C, ["aALM"]),
  (0x709, ["aSYRIAC SUBLINEAR COLON SKEWED LEFT"]),
  (0xCDE, ["aKANNADA LETTER LLLA"]),
  (0xE9D, ["aLAO LETTER FO FON.pAY...lRO.lLO"]),
  (0xFD0, ["aTIBETAN MARK BKA- SHOG GI MGO RGYAN"]),
  (0x11EC, ["aHANGUL JONGSEONG YESIEUNG-KIYEOKzbSSANGKIYEOKrSSANGYESIEUNGrYESIEUNG-KHIEUKH"]),
  (0x180B, ["aFVS1d2d3aMVSaFVS4"]),
  (0x200B, ["aZWSPcNJcJaLRMaRLM"]),
  (0x202A, ["aLREaRLEaPDFaLROaRLOaNNBSP"]),
  (0x205F, ["aMMSPaWJ"]),
  (0x2066, ["aLRIaRLIaFSIaPDI"]),
  (0x2118, ["aWEIERSTRASS ELLIPTIC FUNCTION"]),
  (0x2448, ["aMICR ON US SYMBOLfDASH SYMBOL"]),
  (0x2B7A, ["aLEFTWARDS TRIANGLE-HEADED ARROW WITH DOUBLE VERTICAL STROKE.aRIGHTWARDS TRIANGLE-HE",
    "ADED ARROW WITH DOUBLE VERTICAL STROKE"]),
  (0xA015, ["aYI SYLLABLE ITERATION MARK"]),
  (0xAA6E, ["aMYANMAR LETTER KHAMTI LLA"]),
  (0xFE00, ["aVS1c2c3c4c5c6c7c8c9c10d1d2d3d4d5d6"]),
  (0xFE18, ["aPRESENTATION FORM FOR VERTICAL RIGHT WHITE LENTICULAR BRACKET"]),
  (0xFEFF, ["aBYTE ORDER MARK"]),
  (0xFEFF, ["aBOM"]),
  (0xFEFF, ["aZWNBSP"]),
  (0x122D4, ["aCUNEIFORM SIGN NU11 TENUuOVER NU11 BUR OVER BUR"]),
  (0x16E56, ["aMEDEFAIDRIN CAPITAL LETTER HzcNG"]),
  (0x16E76, ["aMEDEFAIDRIN SMALL LETTER HzaNG"]),
  (0x1B001, ["aHENTAIGANA LETTER E-1"]),
  (0x1D0C5, ["aBYZANTINE MUSICAL SYMBOL FTHORA SKLIRON CHROMA VASIS"]),
  (0xE0100, ["aVS17d8d9c20d1d2d3d4d5d6d7d8d9c30d1d2d3d4d5d6d7d8d9c40d1d2d3d4d5d6d7d8d9c50d1d2d3d4",
    "d5d6d7d8d9c60d1d2d3d4d5d6d7d8d9c70d1d2d3d4d5d6d7d8d9c80d1d2d3d4d5d6d7d8d9c90d1d2d3d4d5d6d7d8",
    "d9c100e1e2e3e4e5e6e7e8e9d10e1e2e3e4e5e6e7e8e9d20e1e2e3e4e5e6e7e8e9d30e1e2e3e4e5e6e7e8e9d40e1",
    "e2e3e4e5e6e7e8e9d50e1e2e3e4e5e6e7e8e9d60e1e2e3e4e5e6e7e8e9d70e1e2e3e4e5e6e7e8e9d80e1e2e3e4e5",
    "e6e7e8e9d90e1e2e3e4e5e6e7e8e9c200e1e2e3e4e5e6e7e8e9d10e1e2e3e4e5e6e7e8e9d20e1e2e3e4e5e6e7e8e",
    "9d30e1e2e3e4e5e6e7e8e9d40e1e2e3e4e5e6e7e8e9d50e1e2e3e4e5e6"])]

end CallExcerpt.Text
